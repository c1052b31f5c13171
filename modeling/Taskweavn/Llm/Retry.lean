import Taskweavn.Lib.Attempts
import Taskweavn.Llm.Errors
import Taskweavn.Py.Text
import Mathlib.Algebra.Order.Field.Rat

/-!
# Retries of a provider call

`BaseLLMProvider.chat` calls `_chat_once` up to `max_attempts` times (`taskweavn/llm/retry.py`).
What the calls do is a sequence of outcomes, one for each call that could be made.  The floats
of the delays are a type `F` with the operations that are used; a power of a float can raise an
`OverflowError`, and the sleeper can raise as well.  `lower` is `str.lower`.

`chat_spec` says what a run does: it ends with the first call that is not to be repeated, or
earlier where the wait for the next call fails.  `meetsRetryContract_iff` says when **a run
reports its retries and keeps the class of its last failure**.
-/

namespace Taskweavn.Llm

open Lib Py

variable {F : Type}

/-! ### The policy -/

/-- The float arithmetic of the delays. -/
structure FloatOps (F : Type) where
  zero : F
  half : F
  one : F
  add : F → F → F
  mul : F → F → F
  /-- `x ** n`, which raises an `OverflowError` -/
  pow : F → ℕ → Option F
  lt : F → F → Bool

/-- `min(x, y)` -/
def FloatOps.min (ops : FloatOps F) (x y : F) : F := if ops.lt y x then y else x

/-- The fields of a `RetryPolicy`. -/
structure RetryPolicyFields (F : Type) where
  maxAttempts : ℤ := 3
  initialDelaySeconds : F
  maxDelaySeconds : F
  backoffMultiplier : F
  jitter : Bool := true
  retryOnStatus : List ℤ := [408, 409, 425, 429, 500, 502, 503, 504]

/-- `_validate_policy`: the error that is raised. -/
def RetryPolicyFields.error (ops : FloatOps F) (fields : RetryPolicyFields F) : Option String :=
  if fields.maxAttempts < 1 then some "max_attempts must be >= 1"
  else if ops.lt fields.initialDelaySeconds ops.zero then
    some "initial_delay_seconds must be non-negative"
  else if ops.lt fields.maxDelaySeconds ops.zero then
    some "max_delay_seconds must be non-negative"
  else if ops.lt fields.maxDelaySeconds fields.initialDelaySeconds then
    some "max_delay_seconds must be >= initial_delay_seconds"
  else if ops.lt fields.backoffMultiplier ops.one then some "backoff_multiplier must be >= 1"
  else none

/-- Retry policy for provider transport calls. -/
structure RetryPolicy (ops : FloatOps F) extends RetryPolicyFields F where
  valid : toRetryPolicyFields.error ops = none

theorem RetryPolicy.one_le_maxAttempts {ops : FloatOps F} (policy : RetryPolicy ops) :
    1 ≤ policy.maxAttempts := by
  have h := policy.valid
  unfold RetryPolicyFields.error at h
  by_contra hlt
  rw [if_pos (by omega)] at h
  cases h

/-! ### One call -/

/-- `BaseLLMProvider`.  The `n`-th call is followed by the draw `randomSource n`, and by a wait
from which `sleeper n` tells whether it comes to its end. -/
structure BaseLLMProvider (F : Type) where
  ops : FloatOps F
  lower : String → String
  name : String := "base"
  retryPolicy : RetryPolicy ops
  randomSource : ℕ → F
  sleeper : ℕ → F → Bool

/-- What retries read of a `ChatRequest`. -/
structure ChatRequest (F : Type) where
  model : String
  timeoutSeconds : Option F := none

/-- A `ChatResponse`; what retries do not touch is `body`. -/
structure ChatResponse (F : Type) where
  body : String
  retryCount : ℕ := 0
  retryRecords : List (RetryRecord F) := []
deriving DecidableEq, Repr

/-- What `_chat_once` does when it is called for the `i`-th time. -/
abbrev Outcomes (F : Type) := ℕ → Except (ChatError F) (ChatResponse F)

def failure : Except (ChatError F) (ChatResponse F) → Option (ChatError F)
  | .ok _ => none
  | .error e => some e

def retryable : List ErrorClassification := [.retryable, .rateLimit]

/-- What leaves `chat` as an exception. -/
inductive Raised (F : Type)
  | error (e : ProviderError F)
  /-- A power in `_delay_seconds`. -/
  | overflowError
  | sleeperError
  | assertionError

/-- The variables of `_with_retry`. -/
structure LoopState (F : Type) where
  records : List (RetryRecord F) := []
  lastError : Option (ChatError F) := none
  lastClassification : ErrorClassification := .unknown

namespace BaseLLMProvider

variable (p : BaseLLMProvider F) (request : ChatRequest F) (outcomes : Outcomes F)

/-- `classify_error`, from the status code on -/
def classifyStatus (code : ℤ) : Option ErrorClassification :=
  if code ∈ [401, 403] then some .fatalAuth
  else if code = 429 then some .rateLimit
  else if code ∈ p.retryPolicy.retryOnStatus then some .retryable
  else if code = 400 then some .fatalRequest
  else if code = 413 then some .contextLimit
  else none

/-- `classify_error`, from the name of the type and the text -/
def classifyText (typeName text : String) : ErrorClassification :=
  let name := p.lower typeName
  let message := p.lower text
  if Within "timeout" name ∨ Within "timeout" message then .retryable
  else if Within "rate" message ∧ Within "limit" message then .rateLimit
  else if Within "context" message ∧ (Within "too long" message ∨ Within "length" message) then
    .contextLimit
  else if Within "auth" name ∨ Within "permission" message ∨ Within "api key" message then
    .fatalAuth
  else if Within "badrequest" name ∨ Within "invalid" message then .fatalRequest
  else .unknown

/-- Map provider exceptions into retry classifications. -/
def classifyError : ChatError F → ErrorClassification
  | .provider e => e.classification
  | .raw e => (e.statusCode.bind p.classifyStatus).getD (p.classifyText e.typeName e.message)

def IsTimeoutError (e : ChatError F) : Prop :=
  Within "timeout" (p.lower e.typeName) ∨ Within "timeout" (p.lower e.message) ∨
    Within "timed out" (p.lower e.message)

instance (e : ChatError F) : Decidable (p.IsTimeoutError e) :=
  inferInstanceAs (Decidable (Within "timeout" (p.lower e.typeName) ∨
    Within "timeout" (p.lower e.message) ∨ Within "timed out" (p.lower e.message)))

/-- `_delay_seconds`, with `none` for an `OverflowError` -/
def delaySeconds (attempt : ℕ) : Option F :=
  (p.ops.pow p.retryPolicy.backoffMultiplier (attempt - 1)).map fun factor =>
    let delay := p.ops.min (p.ops.mul p.retryPolicy.initialDelaySeconds factor)
      p.retryPolicy.maxDelaySeconds
    if p.retryPolicy.jitter && p.ops.lt p.ops.zero delay then
      p.ops.mul delay (p.ops.add p.ops.half (p.randomSource attempt))
    else delay

def record (attempt : ℕ) (classification : ErrorClassification) (delay : F) (e : ChatError F) :
    RetryRecord F where
  attempt := attempt
  maxAttempts := p.retryPolicy.maxAttempts
  classification := classification
  providerName := p.name
  model := request.model
  delaySeconds := delay
  errorType := e.typeName
  errorSummary := String.ofList (e.message.toList.take 500)

def raiseFinal (e : ChatError F) (classification : ErrorClassification)
    (retryRecords : List (RetryRecord F)) : ProviderError F :=
  match e with
  | .provider e =>
    if retryRecords ≠ [] ∧ e.retryRecords = [] then
      { cls := .llmProviderError
        message := e.message
        providerName := e.providerName
        model := e.model
        classification := e.classification
        originalError := e.originalError
        retryRecords := retryRecords
        metadata := e.metadata }
    else e
  | .raw e =>
    let cls : ErrorClass :=
      if classification ∈ retryable then .llmRetryExhaustedError
      else if classification = .fatalAuth then .llmAuthError
      else if classification = .fatalCapability then .llmCapabilityError
      else if classification = .contextLimit then .llmContextLimitError
      else if classification = .fatalRequest then .llmRequestError
      else .llmProviderError
    { cls := cls
      message := p.name ++ " " ++ classification.value ++ ": " ++ e.message
      providerName := p.name
      model := request.model
      classification := classification
      originalError := some e
      retryRecords := retryRecords }

/-! ### The loop -/

def attempt (i : ℕ) (state : LoopState F) :
    LoopState F ⊕ Except (Raised F) (ChatResponse F) :=
  match outcomes i with
  | .error e =>
    let classification := p.classifyError e
    if request.timeoutSeconds.isSome ∧ p.IsTimeoutError e then
      .inr (.error (.error (p.raiseFinal request e classification state.records)))
    else if classification ∈ retryable ∧ i < p.retryPolicy.maxAttempts then
      match p.delaySeconds i with
      | none => .inr (.error .overflowError)
      | some delay =>
        if p.sleeper i delay then
          .inl { records := state.records ++ [p.record request i classification delay e]
                 lastError := some e
                 lastClassification := classification }
        else .inr (.error .sleeperError)
    else .inr (.error (.error (p.raiseFinal request e classification state.records)))
  | .ok response =>
    if state.records = [] then .inr (.ok response)
    else .inr (.ok { response with
      retryCount := state.records.length
      retryRecords := state.records })

def exhausted (state : LoopState F) : Except (Raised F) (ChatResponse F) :=
  match state.lastError with
  | none => .error .assertionError
  | some e => .error (.error {
      cls := .llmRetryExhaustedError
      message := p.name ++ " exhausted " ++ toString p.retryPolicy.maxAttempts ++
        " attempts for " ++ request.model
      providerName := p.name
      model := request.model
      classification := state.lastClassification
      originalError := some e.seen
      retryRecords := state.records })

/-- `chat`: the number of the last call, and what comes of it. -/
def chat : ℕ × Except (Raised F) (ChatResponse F) :=
  attempts (p.attempt request outcomes) (p.exhausted request)
    p.retryPolicy.maxAttempts.toNat 1 {}

/-! ### Which calls are repeated -/

/-- The `i`-th call is to be repeated: it failed with a retryable or a rate-limit classification,
there are attempts left, and it was no timeout under a timeout of the request. -/
def Repeats (i : ℕ) : Prop :=
  ∃ e ∈ failure (outcomes i), p.classifyError e ∈ retryable ∧ i < p.retryPolicy.maxAttempts ∧
    ¬ (request.timeoutSeconds.isSome ∧ p.IsTimeoutError e)

instance : DecidablePred (p.Repeats request outcomes) := fun i =>
  inferInstanceAs (Decidable (∃ e ∈ failure (outcomes i), p.classifyError e ∈ retryable ∧
    i < p.retryPolicy.maxAttempts ∧ ¬ (request.timeoutSeconds.isSome ∧ p.IsTimeoutError e)))

/-- The wait after the `i`-th call comes to its end. -/
def Waits (i : ℕ) : Prop := ∃ delay ∈ p.delaySeconds i, p.sleeper i delay = true

instance : DecidablePred p.Waits := fun i =>
  inferInstanceAs (Decidable (∃ delay ∈ p.delaySeconds i, p.sleeper i delay = true))

/-- The record tells of the failure of the `i`-th call. -/
def Describes (i : ℕ) (record : RetryRecord F) : Prop :=
  record.attempt = i ∧ ∃ e ∈ failure (outcomes i), record.classification = p.classifyError e ∧
    record.errorType = e.typeName ∧ record.errorSummary = String.ofList (e.message.toList.take 500)

/-- What the last call leads to, after the retries of the records. -/
def conclude (records : List (RetryRecord F)) :
    Except (ChatError F) (ChatResponse F) → Except (Raised F) (ChatResponse F)
  | .ok response =>
    .ok (if records = [] then response
      else { response with retryCount := records.length, retryRecords := records })
  | .error e => .error (.error (p.raiseFinal request e (p.classifyError e) records))

variable {p request outcomes}

theorem record_describes {i : ℕ} {e : ChatError F} (he : outcomes i = .error e) (delay : F) :
    p.Describes outcomes i (p.record request i (p.classifyError e) delay e) :=
  ⟨rfl, e, by rw [he]; rfl, rfl, rfl, rfl⟩

theorem attempt_inl {i : ℕ} {state state' : LoopState F}
    (h : p.attempt request outcomes i state = .inl state') :
    p.Repeats request outcomes i ∧ p.Waits i ∧
      ∃ record, p.Describes outcomes i record ∧ state'.records = state.records ++ [record] := by
  cases ho : outcomes i with
  | ok response =>
    simp only [attempt, ho] at h
    split at h <;> cases h
  | error e =>
    simp only [attempt, ho] at h
    split at h
    · cases h
    · rename_i htimeout
      split at h
      · rename_i hagain
        split at h
        · cases h
        · rename_i delay hdelay
          split at h
          · rename_i hsleep
            obtain rfl := Sum.inl.inj h
            exact ⟨⟨e, by rw [ho]; rfl, hagain.1, hagain.2, htimeout⟩, ⟨delay, hdelay, hsleep⟩,
              _, record_describes ho delay, rfl⟩
          · cases h
      · cases h

/-- The calls that end the loop: those that are not to be repeated, and those after which the
wait fails. -/
theorem attempt_inr {i : ℕ} {state : LoopState F} {r : Except (Raised F) (ChatResponse F)}
    (h : p.attempt request outcomes i state = .inr r) :
    (¬ p.Repeats request outcomes i ∧ r = p.conclude request state.records (outcomes i)) ∨
      (p.Repeats request outcomes i ∧ ¬ p.Waits i ∧ ∃ raised, r = .error raised ∧
        ∀ e, raised ≠ .error e) := by
  cases ho : outcomes i with
  | ok response =>
    refine .inl ⟨?_, ?_⟩
    · rintro ⟨e, he, -⟩
      rw [ho] at he
      cases he
    · simp only [attempt, ho] at h
      rw [conclude]
      split at h
      · rename_i hnil
        rw [if_pos hnil, Sum.inr.inj h]
      · rename_i hnil
        rw [if_neg hnil, Sum.inr.inj h]
  | error e =>
    have hfail : ∀ e' ∈ failure (outcomes i), e' = e := by
      intro e' he'
      rw [ho] at he'
      exact (Option.some.inj he').symm
    simp only [attempt, ho] at h
    split at h
    · rename_i htimeout
      refine .inl ⟨?_, (Sum.inr.inj h).symm⟩
      rintro ⟨e', he', -, -, hno⟩
      exact hno (hfail e' he' ▸ htimeout)
    · rename_i htimeout
      split at h
      · rename_i hagain
        refine .inr ⟨⟨e, by rw [ho]; rfl, hagain.1, hagain.2, htimeout⟩, ?_⟩
        split at h
        · rename_i hdelay
          refine ⟨?_, _, (Sum.inr.inj h).symm, fun _ => nofun⟩
          rintro ⟨delay, hsome, -⟩
          rw [hdelay] at hsome
          cases hsome
        · rename_i delay hdelay
          split at h
          · cases h
          · rename_i hsleep
            refine ⟨?_, _, (Sum.inr.inj h).symm, fun _ => nofun⟩
            rintro ⟨delay', hsome, hsleep'⟩
            rw [hdelay] at hsome
            exact hsleep (Option.some.inj hsome ▸ hsleep')
      · rename_i hagain
        refine .inl ⟨?_, (Sum.inr.inj h).symm⟩
        rintro ⟨e', he', hclass, hlt, -⟩
        exact hagain ⟨hfail e' he' ▸ hclass, hlt⟩

theorem not_repeats_maxAttempts {i : ℕ} (h : p.retryPolicy.maxAttempts ≤ i) :
    ¬ p.Repeats request outcomes i := by
  rintro ⟨-, -, -, hlt, -⟩
  omega

/-- **What a run does.**  Every call before the last one is repeated after a wait, with one record
for each, and the last call concludes the run or the wait after it fails. -/
theorem chat_spec :
    ∃ records, 1 ≤ (p.chat request outcomes).1 ∧
      (p.chat request outcomes).1 ≤ p.retryPolicy.maxAttempts ∧
      List.Forall₂ (p.Describes outcomes) (List.range' 1 ((p.chat request outcomes).1 - 1))
        records ∧
      (∀ i, 1 ≤ i → i < (p.chat request outcomes).1 →
        p.Repeats request outcomes i ∧ p.Waits i) ∧
      ((¬ p.Repeats request outcomes (p.chat request outcomes).1 ∧
          (p.chat request outcomes).2 =
            p.conclude request records (outcomes (p.chat request outcomes).1)) ∨
        (p.Repeats request outcomes (p.chat request outcomes).1 ∧
          ¬ p.Waits (p.chat request outcomes).1 ∧
          ∃ raised, (p.chat request outcomes).2 = .error raised ∧ ∀ e, raised ≠ .error e)) := by
  have hmax := p.retryPolicy.one_le_maxAttempts
  obtain ⟨n, hn⟩ : ∃ n, p.retryPolicy.maxAttempts.toNat = n + 1 :=
    ⟨p.retryPolicy.maxAttempts.toNat - 1, by omega⟩
  have hrun : p.chat request outcomes =
      attempts (p.attempt request outcomes) (p.exhausted request) (n + 1) 1 {} := by
    rw [chat, hn]
  obtain ⟨state, ⟨hone, hrecords, hbefore⟩, hend, hle⟩ := @attempts_induction _ _
    (p.attempt request outcomes) (p.exhausted request)
    (fun i state => 1 ≤ i ∧
      List.Forall₂ (p.Describes outcomes) (List.range' 1 (i - 1)) state.records ∧
      ∀ j, 1 ≤ j → j < i → p.Repeats request outcomes j ∧ p.Waits j)
    (by
      rintro i state state' ⟨hone, hrecords, hbefore⟩ hstep
      obtain ⟨hrepeats, hwaits, record, hdescribes, hstate⟩ := attempt_inl hstep
      refine ⟨by omega, ?_, ?_⟩
      · obtain ⟨k, rfl⟩ : ∃ k, i = 1 + k := ⟨i - 1, by omega⟩
        rw [hstate, show 1 + k + 1 - 1 = 1 + k - 1 + 1 by omega, List.range'_concat, Nat.one_mul,
          Nat.add_sub_cancel_left]
        rw [Nat.add_sub_cancel_left] at hrecords
        exact List.rel_append hrecords (.cons hdescribes .nil)
      · intro j hj hlt
        rcases Nat.lt_succ_iff_lt_or_eq.mp hlt with hlt | rfl
        · exact hbefore j hj hlt
        · exact ⟨hrepeats, hwaits⟩)
    n 1 {} ⟨le_rfl, .nil, fun j hj hlt => absurd hlt (by omega)⟩
    (fun _ _ hstep => not_repeats_maxAttempts (i := 1 + n) (by omega) (attempt_inl hstep).1)
  rw [← hrun] at hone hrecords hbefore hend hle
  exact ⟨state.records, hone, by omega, hrecords, hbefore, attempt_inr hend⟩

/-! ### What a run reports -/

variable (p request outcomes)

/-- The numbers of the first `n` calls that failed. -/
def failedCalls (n : ℕ) : List ℕ := (List.range' 1 n).filter fun i => (failure (outcomes i)).isSome

/-- The answer to the last call, the `n`-th, reports the calls before it. -/
def Reports (n : ℕ) : Except (Raised F) (ChatResponse F) → Prop
  | .ok response =>
    response.retryCount = (failedCalls outcomes n).length ∧
      List.Forall₂ (p.Describes outcomes) (failedCalls outcomes n) response.retryRecords
  | .error (.error e) =>
    List.Forall₂ (p.Describes outcomes) (List.range' 1 (n - 1)) e.retryRecords ∧
      (∃ last ∈ failure (outcomes n), e.classification = p.classifyError last) ∧
      e.cls.IsSubclass e.classification.errorClass
  | .error _ => False

/-- A run is bounded and exact, and it reports what has happened. -/
def MeetsRetryContract : Prop :=
  (p.chat request outcomes).1 ≤ p.retryPolicy.maxAttempts ∧
    (∀ i, 1 ≤ i → (i + 1 ≤ (p.chat request outcomes).1 ↔
      i ≤ (p.chat request outcomes).1 ∧ p.Repeats request outcomes i)) ∧
    p.Reports outcomes (p.chat request outcomes).1 (p.chat request outcomes).2

/-- The number of the first call that is not to be repeated. -/
def lastCall : ℕ :=
  lastAttempt (p.Repeats request outcomes) (p.retryPolicy.maxAttempts.toNat - 1) 1

/-- The outcome of the `n`-th call, as the last one, can be handed on. -/
def HandedOn (n : ℕ) : Except (ChatError F) (ChatResponse F) → Prop
  | .ok response => 1 < n ∨ response.retryCount = 0 ∧ response.retryRecords = []
  | .error (.raw _) => True
  | .error (.provider e) =>
    (List.Forall₂ (p.Describes outcomes) (List.range' 1 (n - 1)) e.retryRecords ∧
      e.cls.IsSubclass e.classification.errorClass) ∨
    (1 < n ∧ e.retryRecords = [] ∧ e.classification = .unknown)

variable {p request outcomes}

theorem not_repeats_last :
    ¬ p.Repeats request outcomes (1 + (p.retryPolicy.maxAttempts.toNat - 1)) := by
  have := p.retryPolicy.one_le_maxAttempts
  exact not_repeats_maxAttempts (by omega)

theorem lastCall_spec :
    ¬ p.Repeats request outcomes (p.lastCall request outcomes) ∧
      1 ≤ p.lastCall request outcomes ∧
      ∀ i, 1 ≤ i → i < p.lastCall request outcomes → p.Repeats request outcomes i :=
  lastAttempt_spec _ 1 not_repeats_last

theorem eq_lastCall {n : ℕ} (hone : 1 ≤ n) (hend : ¬ p.Repeats request outcomes n)
    (hbefore : ∀ i, 1 ≤ i → i < n → p.Repeats request outcomes i) :
    n = p.lastCall request outcomes :=
  eq_lastAttempt not_repeats_last hone hend hbefore

theorem failedCalls_of_ok {n : ℕ} {response : ChatResponse F} (hone : 1 ≤ n)
    (hok : outcomes n = .ok response)
    (hbefore : ∀ i, 1 ≤ i → i < n → p.Repeats request outcomes i) :
    failedCalls outcomes n = List.range' 1 (n - 1) := by
  obtain ⟨k, rfl⟩ : ∃ k, n = k + 1 := ⟨n - 1, by omega⟩
  have hfail : ∀ i ∈ List.range' 1 k, (failure (outcomes i)).isSome = true := by
    intro i hi
    obtain ⟨hi, hlt⟩ := List.mem_range'_1.mp hi
    obtain ⟨e, he, -⟩ := hbefore i hi (by omega)
    rw [Option.mem_def.mp he]
    rfl
  have hlast : (failure (outcomes (1 + k))).isSome = false := by
    rw [Nat.add_comm 1 k, hok]
    rfl
  rw [failedCalls, List.range'_concat, List.filter_append, Nat.one_mul,
    List.filter_eq_self.mpr hfail, List.filter_cons_of_neg (by simp [hlast]), List.filter_nil,
    List.append_nil, Nat.add_sub_cancel]

theorem raiseFinal_raw_cls (e : RawError) (classification : ErrorClassification)
    (records : List (RetryRecord F)) :
    (p.raiseFinal request (.raw e) classification records).cls = classification.errorClass := by
  cases classification <;> rfl

theorem reports_conclude {n : ℕ} {records : List (RetryRecord F)} (hone : 1 ≤ n)
    (hrecords : List.Forall₂ (p.Describes outcomes) (List.range' 1 (n - 1)) records)
    (hbefore : ∀ i, 1 ≤ i → i < n → p.Repeats request outcomes i) :
    p.Reports outcomes n (p.conclude request records (outcomes n)) ↔
      p.HandedOn outcomes n (outcomes n) := by
  have hlen : n - 1 = records.length := by
    rw [← hrecords.length_eq, List.length_range']
  cases ho : outcomes n with
  | ok response =>
    rw [conclude, Reports, failedCalls_of_ok hone ho hbefore, HandedOn, List.length_range']
    by_cases hn : 1 < n
    · have hne : records ≠ [] := by
        rw [← List.length_pos_iff]
        omega
      rw [if_neg hne]
      exact ⟨fun _ => .inl hn, fun _ => ⟨hlen.symm, hrecords⟩⟩
    · obtain rfl : n = 1 := by omega
      rw [if_pos (List.length_eq_zero_iff.mp hlen.symm)]
      simp
  | error e =>
    cases e with
    | raw e =>
      refine ⟨fun _ => trivial, fun _ => ⟨hrecords, ⟨.raw e, by rw [ho]; rfl, rfl⟩, ?_⟩⟩
      rw [raiseFinal_raw_cls]
      exact ErrorClass.isSubclass_self _
    | provider e =>
      have hlast : ∃ last ∈ failure (outcomes n), e.classification = p.classifyError last :=
        ⟨.provider e, by rw [ho]; rfl, rfl⟩
      rw [conclude, HandedOn, raiseFinal]
      by_cases hraise : records ≠ [] ∧ e.retryRecords = []
      · have hn : 1 < n := by
          have := List.length_pos_iff.mpr hraise.1
          omega
        have hown : ¬ List.Forall₂ (p.Describes outcomes) (List.range' 1 (n - 1))
            e.retryRecords := by
          intro h
          have := h.length_eq
          rw [hraise.2, List.length_range', List.length_nil] at this
          omega
        rw [if_pos hraise, Reports, llmProviderError_isSubclass]
        constructor
        · exact fun h => .inr ⟨hn, hraise.2, h.2.2⟩
        · rintro (⟨h, -⟩ | ⟨-, -, hunknown⟩)
          · exact absurd h hown
          · exact ⟨hrecords, hlast, hunknown⟩
      · rw [if_neg hraise, Reports]
        constructor
        · exact fun h => .inl ⟨h.1, h.2.2⟩
        · rintro (⟨h, hcls⟩ | ⟨hn, hnil, -⟩)
          · exact ⟨h, hlast, hcls⟩
          · refine absurd ⟨?_, hnil⟩ hraise
            rw [← List.length_pos_iff]
            omega

/-- **When a run meets the contract.** -/
theorem meetsRetryContract_iff :
    p.MeetsRetryContract request outcomes ↔
      (∀ i, 1 ≤ i → i < p.lastCall request outcomes → p.Waits i) ∧
        p.HandedOn outcomes (p.lastCall request outcomes)
          (outcomes (p.lastCall request outcomes)) := by
  obtain ⟨records, hone, hmax, hrecords, hbefore, hend⟩ :=
    @chat_spec F p request outcomes
  have hrepeats := fun i hi hlt => (hbefore i hi hlt).1
  rw [MeetsRetryContract]
  generalize p.chat request outcomes = run at *
  rcases hend with ⟨hend, hresult⟩ | ⟨hagain, hstuck, -⟩
  · have hcalls : ∀ i, 1 ≤ i → (i + 1 ≤ run.1 ↔ i ≤ run.1 ∧ p.Repeats request outcomes i) := by
      intro i hi
      constructor
      · exact fun hlt => ⟨by omega, hrepeats i hi hlt⟩
      · rintro ⟨hle, hi'⟩
        rcases Nat.lt_or_eq_of_le hle with hlt | rfl
        · exact hlt
        · exact absurd hi' hend
    rw [← eq_lastCall hone hend hrepeats, hresult, reports_conclude hone hrecords hrepeats]
    exact ⟨fun h => ⟨fun i hi hlt => (hbefore i hi hlt).2, h.2.2⟩,
      fun h => ⟨hmax, hcalls, h.2⟩⟩
  · constructor
    · intro h
      have := (h.2.1 run.1 hone).mpr ⟨le_rfl, hagain⟩
      omega
    · intro h
      obtain ⟨hend, hlast, -⟩ := @lastCall_spec F p request outcomes
      refine absurd (h.1 run.1 hone ?_) hstuck
      rcases Nat.lt_trichotomy run.1 (p.lastCall request outcomes) with hlt | heq | hgt
      · exact hlt
      · exact absurd (heq ▸ hagain) hend
      · exact absurd (hrepeats _ hlast hgt) hend

/-! ### A wrapped error after a retry -/

/-- Exact delays, with a sleeper that always wakes. -/
def exactProvider : BaseLLMProvider ℚ where
  ops :=
    { zero := 0
      half := 1 / 2
      one := 1
      add := (· + ·)
      mul := (· * ·)
      pow := fun x n => some (x ^ n)
      lt := fun x y => decide (x < y) }
  lower := String.toLower
  retryPolicy :=
    { initialDelaySeconds := 1 / 2
      maxDelaySeconds := 8
      backoffMultiplier := 2
      valid := by decide +kernel }
  randomSource := fun _ => 0
  sleeper := fun _ _ => true

/-- The first call meets a rate limit, and the second one fails with an error of the provider. -/
def limitedThenDenied : Outcomes ℚ := fun i =>
  if i = 1 then
    .error (.raw { typeName := "RateLimitError", message := "slow down", statusCode := some 429 })
  else
    .error (.provider {
      cls := .llmAuthError
      message := "key revoked"
      providerName := "base"
      model := "m"
      classification := .fatalAuth })

/-- The error of the second call comes out of the run without its class. -/
theorem not_meets_limitedThenDenied :
    ¬ exactProvider.MeetsRetryContract { model := "m" } limitedThenDenied := by
  rintro ⟨-, -, h⟩
  have hcls : ErrorClass.llmProviderError.IsSubclass .llmAuthError := h.2.2
  exact absurd hcls (by decide)

end BaseLLMProvider

end Taskweavn.Llm
