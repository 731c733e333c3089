import ProtoRu.TransitionRuns

namespace ProtoRu.TokenBucket

structure Config where
  refillToken : Nat
  maxTokens : Nat
  refillToken_pos : 0 < refillToken
  refillToken_le : refillToken ≤ maxTokens
  maxTokens_lt : maxTokens < 2 ^ 32

/-- The bucket, with the tokens granted and the refills so far. -/
structure Bucket where
  tokensInBucket : Nat
  refillTimerRunning : Bool := true
  stopped : Bool := false
  granted : Nat := 0
  refills : Nat := 0

inductive Event where
  | consume (tokens : Nat)
  | expire
  | stop

namespace Bucket

variable (cfg : Config) (b : Bucket)

def new : Bucket := { tokensInBucket := cfg.maxTokens }

def consume (tokens : Nat) : Bucket × Bool :=
  let tokensLeft := ((b.tokensInBucket : Int) - tokens).bmod (2 ^ 32)
  if b.stopped ∨ tokensLeft < 0 then (b, false)
  else
    ({ b with
      tokensInBucket := tokensLeft.toNat
      refillTimerRunning := true
      granted := b.granted + tokens }, true)

def refill : Bucket :=
  if b.stopped then b
  else
    let tokens := min cfg.maxTokens ((b.tokensInBucket + cfg.refillToken) % 2 ^ 32)
    { b with
      tokensInBucket := tokens
      refillTimerRunning := tokens ≠ cfg.maxTokens
      refills := b.refills + 1 }

def step : Event → Bucket
  | .consume tokens => (b.consume tokens).1
  | .expire => refill cfg { b with refillTimerRunning := false }
  | .stop => if b.stopped then b else { b with refillTimerRunning := false, stopped := true }

/-- The tokens held and requested are at most half of the 32 bit range apart. -/
def Fits : Event → Prop
  | .consume tokens => b.stopped = false →
      b.tokensInBucket < tokens + 2 ^ 31 ∧ tokens ≤ b.tokensInBucket + 2 ^ 31
  | _ => True

variable {cfg b}

lemma bmod_eq {tokens : Nat} (hfits : b.Fits (.consume tokens)) (hstopped : b.stopped = false) :
    ((b.tokensInBucket : Int) - tokens).bmod (2 ^ 32) = b.tokensInBucket - tokens := by
  have := hfits hstopped
  exact Int.bmod_eq_of_le (by omega) (by omega)

/-- What holds of a bucket since the state that a period starts in. -/
structure Limited (cfg : Config) (start b : Bucket) : Prop where
  tokens_le : b.tokensInBucket ≤ cfg.maxTokens
  running : b.stopped = false → b.tokensInBucket < cfg.maxTokens → b.refillTimerRunning
  granted_le : b.granted + b.tokensInBucket + start.refills * cfg.refillToken ≤
    start.granted + start.tokensInBucket + b.refills * cfg.refillToken

lemma Limited.step {start : Bucket} (h : Limited cfg start b) {event : Event}
    (hfits : b.Fits event) : Limited cfg start (b.step cfg event) := by
  have ⟨hle, hrunning, hgranted⟩ := h
  cases event with
  | consume tokens =>
    rw [Bucket.step, consume]
    split_ifs with hrefused
    · exact h
    rw [not_or, Bool.not_eq_true] at hrefused
    have hleft := bmod_eq hfits hrefused.1
    exact ⟨by simp only; omega, fun _ _ => rfl, by simp only; omega⟩
  | expire =>
    rw [Bucket.step, refill]
    split_ifs with hstopped
    · exact ⟨hle, by simp_all, hgranted⟩
    have hsum := Nat.mod_le (b.tokensInBucket + cfg.refillToken) (2 ^ 32)
    refine ⟨Nat.min_le_left _ _, fun _ hlt => decide_eq_true hlt.ne, ?_⟩
    simp only [Nat.succ_mul]
    omega
  | stop =>
    rw [Bucket.step]
    split_ifs
    · exact h
    · exact ⟨hle, by simp, hgranted⟩

/-- In any period at most a full bucket and the tokens of its refills are granted. -/
theorem limits_rate (cfg : Config) (before period : List Event)
    (hbefore : Guarded (step cfg) Fits (new cfg) before)
    (hperiod : Guarded (step cfg) Fits (before.foldl (step cfg) (new cfg)) period) :
    let start := before.foldl (step cfg) (new cfg)
    let last := period.foldl (step cfg) start
    last.tokensInBucket ≤ cfg.maxTokens ∧
      (∀ tokens, last.Fits (.consume tokens) →
        ((last.consume tokens).2 ↔ last.stopped = false ∧ tokens ≤ last.tokensInBucket)) ∧
      last.granted ≤ start.granted + cfg.maxTokens +
        (last.refills - start.refills) * cfg.refillToken ∧
      (last.stopped = false → last.tokensInBucket < cfg.maxTokens → last.refillTimerRunning) := by
  intro start last
  have hstart : Limited cfg (new cfg) start := hbefore.invariant (Limited cfg (new cfg))
    (fun _ _ h => h.step) ⟨le_rfl, fun _ _ => rfl, le_rfl⟩
  have hlast : Limited cfg start last := hperiod.invariant (Limited cfg start)
    (fun _ _ h => h.step) ⟨hstart.tokens_le, hstart.running, le_rfl⟩
  refine ⟨hlast.tokens_le, fun tokens hfits => ?_, ?_, hlast.running⟩
  · rw [consume]
    cases hstopped : last.stopped with
    | true => simp
    | false =>
      simp only [bmod_eq hfits hstopped, Bool.false_eq_true, false_or, true_and]
      split_ifs <;> simp <;> omega
  · have hgranted := hlast.granted_le
    have hfull := hstart.tokens_le
    rw [Nat.sub_mul]
    omega

def tenTokens : Config := ⟨2, 10, by decide, by decide, by decide⟩

theorem tenTokens_limited :
    ([.consume 6, .expire].foldl (step tenTokens) (new tenTokens)).tokensInBucket ≤ 10 :=
  (limits_rate tenTokens [] [.consume 6, .expire] trivial
    ⟨fun _ => by decide, trivial, trivial⟩).1

/-- A request for almost 2 ^ 32 tokens is granted, and the bucket is then more than full. -/
theorem hugeRequest_granted : ((new tenTokens).consume (2 ^ 32 - 1)).2 ∧
    ((new tenTokens).consume (2 ^ 32 - 1)).1.tokensInBucket = 11 := by
  decide

end Bucket

end ProtoRu.TokenBucket
