import Taskweavn.Py.JsonObject
import Taskweavn.Py.Text

/-!
# Risk that a model assesses

`LLMRiskAssessor.assess` of `taskweavn/interaction/risk.py` asks a model for a score, and raises the
static baseline of an action to it.  The reply may have prose around its JSON object: `_parse` takes
the text from the first opening brace to the last closing one.  So a brace behind the object makes
the text unreadable, and the baseline stands.

`honoursReply_iff` says for which replies a score counts as it should.
-/

namespace Taskweavn.Risk

open Lib Py

/-- What Python makes of numbers and texts. -/
structure PyConversions where
  /-- `float(n)`, nothing when it raises an `OverflowError` -/
  ofInt : ℤ → Option PyFloat
  /-- `float(text)` of a JSON number -/
  ofNumber : List Char → PyFloat
  /-- `float(text)` of any text, given by its code units -/
  ofUnits : List ℕ → Option PyFloat
  /-- `str(value)` -/
  str : JsonDoc → String

/-- The baseline of an action; `BaseAction.__init_subclass__` refuses a class with another one. -/
abbrev BaselineRisk := { x : ℚ // 0 ≤ x ∧ x ≤ 1 }

inductive RiskParseError
  /-- LLM returned empty content -/
  | emptyContent
  /-- no JSON object in LLM reply: … -/
  | noObject
  /-- `json.JSONDecodeError`, or an integer is too long -/
  | notJson
  /-- LLM JSON missing 'score' field: … -/
  | missingScore
  /-- `float(payload["score"])` raises -/
  | notFloat
deriving DecidableEq, Repr

/-- What the rationale of an assessment tells; `E` are the failures of the model. -/
inductive Rationale (E : Type)
  | told (text : String)
  /-- llm assessor … failed (…); falling back to baseline -/
  | fellBack (why : E ⊕ RiskParseError)
deriving DecidableEq

structure RiskAssessment (E : Type) where
  baseline : ℚ
  dynamic : ℚ
  rationale : List (Rationale E)
  assessor : String
  valid : (0 ≤ baseline ∧ baseline ≤ 1) ∧ (0 ≤ dynamic ∧ dynamic ≤ 1) ∧ ¬dynamic < baseline

variable {E : Type}

/-- The constructor with `__post_init__`, which raises when a score is out of range. -/
def RiskAssessment.make (baseline dynamic : PyFloat) (rationale : List (Rationale E))
    (assessor : String) : Option (RiskAssessment E) :=
  match baseline, dynamic with
  | .finite b, .finite d =>
    if h : (0 ≤ b ∧ b ≤ 1) ∧ (0 ≤ d ∧ d ≤ 1) ∧ ¬d < b then some ⟨b, d, rationale, assessor, h⟩
    else none
  | _, _ => none

/-! ### Parsing a reply -/

def signed (negative : Bool) (int : List Char) : ℤ :=
  let n : ℤ := Nat.ofDigitChars 10 int 0
  if negative then -n else n

/-- `float(value)` -/
def toFloat (py : PyConversions) : JsonDoc → Option PyFloat
  | .number negative int [] => py.ofInt (signed negative int)
  | .number negative int tail =>
    some (py.ofNumber ((if negative then ['-'] else []) ++ int ++ tail))
  | .constant x => some x
  | .bool b => some (.finite (if b then 1 else 0))
  | .str units => py.ofUnits units
  | _ => none

/-- `_parse` -/
def parseReply (py : PyConversions) (content : String) :
    Except RiskParseError (PyFloat × String) :=
  if isBlank content then .error .emptyContent
  else
    match between '\x7b' '\x7d' content.toList with
    | none => .error .noObject
    | some text =>
      match loadsObject text with
      | none => .error .notJson
      | some payload =>
        match payload.get? "score" with
        | none => .error .missingScore
        | some value =>
          match toFloat py value with
          | none => .error .notFloat
          | some score =>
            let rationale := strip ((payload.get? "rationale").elim "" py.str)
            .ok (score, if rationale = "" then "(no rationale provided)" else rationale)

/-- `max(baseline, min(score, 1.0))` -/
def clamped (baseline : BaselineRisk) (score : PyFloat) : PyFloat :=
  PyFloat.max (.finite baseline.1) (PyFloat.min score (.finite 1))

structure LLMRiskAssessor where
  name : String := "llm"

/-- `assess`, after the model has replied or failed; nothing when it raises. -/
def LLMRiskAssessor.assess (assessor : LLMRiskAssessor) (py : PyConversions)
    (reply : Except E String) (baseline : BaselineRisk) : Option (RiskAssessment E) :=
  let fallBack (why : E ⊕ RiskParseError) :=
    RiskAssessment.make (.finite baseline.1) (.finite baseline.1) [.fellBack why]
      assessor.name
  match reply with
  | .error e => fallBack (.inl e)
  | .ok content =>
    match parseReply py content with
    | .error e => fallBack (.inr e)
    | .ok (score, rationale) =>
      RiskAssessment.make (.finite baseline.1) (clamped baseline score) [.told rationale]
        assessor.name

/-! ### What a reply says -/

/-- The score of a value that is a number.  An integer that is too large for a float is above, or
below, every float. -/
def numericScore (py : PyConversions) : JsonDoc → Option PyFloat
  | .number negative int [] => some ((py.ofInt (signed negative int)).getD (.infinite negative))
  | .number negative int tail => toFloat py (.number negative int tail)
  | .constant x => some x
  | _ => none

/-- The reply is prose without an opening brace, an object with a numeric score, and any text. -/
def Scores (py : PyConversions) (content : String) (score : PyFloat) : Prop :=
  ∃ p o s payload value, content.toList = p ++ o ++ s ∧ '\x7b' ∉ p ∧
    readObject o = some (payload, []) ∧ payload.get? "score" = some value ∧
    numericScore py value = some score

/-- The score counts, at most as 1 and at least as the baseline; without one it is the baseline. -/
structure HonoursReply (py : PyConversions) (reply : Except E String) (baseline : BaselineRisk)
    (assessment : RiskAssessment E) : Prop where
  scored : ∀ content score, reply = .ok content → Scores py content score →
    .finite assessment.dynamic = clamped baseline score
  unscored : (∀ content score, reply = .ok content → ¬Scores py content score) →
    assessment.dynamic = baseline.1

/-- The object can be told from the text behind it, and read. -/
def Readable (payload : JsonObject) (rest : List Char) : Prop :=
  payload.long = false ∧ '\x7d' ∉ rest

instance (payload : JsonObject) (rest : List Char) : Decidable (Readable payload rest) :=
  inferInstanceAs (Decidable (_ ∧ _))

/-- The object behind the first opening brace, the text behind it, and the score that it has. -/
structure Found (content : String) (payload : JsonObject) (rest : List Char) (value : JsonDoc) :
    Prop where
  read : readObject (content.toList.dropWhile (· ≠ '\x7b')) = some (payload, rest)
  field : payload.get? "score" = some value

/-- The score does not raise the risk, or it is a number that is read; a score that is no number
does not raise the risk either, or it is not read. -/
def ScoreStands (py : PyConversions) (baseline : BaselineRisk) (reply : Except E String) : Prop :=
  ∀ content payload rest value, reply = .ok content → Found content payload rest value →
    match numericScore py value with
    | some score => clamped baseline score = .finite baseline.1 ∨
        Readable payload rest ∧ toFloat py value = some score
    | none => ∀ score, toFloat py value = some score →
        clamped baseline score = .finite baseline.1 ∨ ¬Readable payload rest

variable {py : PyConversions} {content : String} {baseline : BaselineRisk}

theorem scores_iff {score : PyFloat} : Scores py content score ↔
    ∃ payload rest value,
      Found content payload rest value ∧ numericScore py value = some score := by
  have hstart := fun c out => @JsonState.eq_of_step_start c out
  constructor
  · rintro ⟨p, o, s, payload, value, hcontent, hp, hread, hfield, hscore⟩
    exact ⟨payload, s, value,
      ⟨(consume_dropWhile_iff hstart).mpr ⟨p, o, hcontent, hp, hread⟩, hfield⟩, hscore⟩
  · rintro ⟨payload, rest, value, hfound, hscore⟩
    obtain ⟨p, o, hcontent, hp, hread⟩ := (consume_dropWhile_iff hstart).mp hfound.read
    exact ⟨p, o, rest, payload, value, hcontent, hp, hread, hfound.field, hscore⟩

/-! ### What the assessment is -/

/-- The score that `_parse` returns. -/
def parsedScore (py : PyConversions) (content : String) : Option PyFloat :=
  (between '\x7b' '\x7d' content.toList).bind fun text => (loadsObject text).bind fun payload =>
    (payload.get? "score").bind (toFloat py)

theorem between_of_isBlank (h : isBlank content = true) :
    between '\x7b' '\x7d' content.toList = none := by
  have hnone : content.toList.dropWhile (· ≠ '\x7b') = [] := by
    rw [List.dropWhile_eq_nil_iff]
    intro c hc
    rw [decide_eq_true_iff]
    rintro rfl
    exact absurd (isBlank_iff.mp h _ hc) (by decide)
  rw [between, hnone]
  rfl

theorem parseReply_eq : (∃ e, parseReply py content = .error e ∧ parsedScore py content = none) ∨
    ∃ score rationale, parseReply py content = .ok (score, rationale) ∧
      parsedScore py content = some score := by
  unfold parseReply parsedScore
  by_cases hblank : isBlank content = true
  · rw [if_pos hblank, between_of_isBlank hblank]
    exact .inl ⟨_, rfl, rfl⟩
  · rw [if_neg hblank]
    cases between '\x7b' '\x7d' content.toList with
    | none => exact .inl ⟨_, rfl, rfl⟩
    | some text =>
      simp only [Option.bind_some]
      cases loadsObject text with
      | none => exact .inl ⟨_, rfl, rfl⟩
      | some payload =>
        simp only [Option.bind_some]
        cases payload.get? "score" with
        | none => exact .inl ⟨_, rfl, rfl⟩
        | some value =>
          simp only [Option.bind_some]
          cases toFloat py value with
          | none => exact .inl ⟨_, rfl, rfl⟩
          | some score => exact .inr ⟨_, _, rfl, rfl⟩

/-- A clamped score lies between the baseline and 1. -/
theorem clamped_spec (baseline : BaselineRisk) (score : PyFloat) :
    ∃ d, clamped baseline score = .finite d ∧ baseline.1 ≤ d ∧ d ≤ 1 := by
  obtain ⟨b, h0, h1⟩ := baseline
  have hcases : ∀ x, x ≤ 1 →
      ∃ d, PyFloat.max (.finite b) (.finite x) = .finite d ∧ b ≤ d ∧ d ≤ 1 := by
    intro x hx
    by_cases hlt : b < x
    · exact ⟨x, if_pos (decide_eq_true hlt), hlt.le, hx⟩
    · exact ⟨b, if_neg (by simpa [PyFloat.lt] using hlt), le_rfl, h1⟩
  cases score with
  | nan => exact ⟨b, rfl, le_rfl, h1⟩
  | infinite negative =>
    cases negative with
    | true => exact ⟨b, rfl, le_rfl, h1⟩
    | false => exact hcases 1 le_rfl
  | finite x =>
    by_cases hx : 1 < x
    · have hmin : PyFloat.min (.finite x) (.finite 1) = .finite 1 := if_pos (decide_eq_true hx)
      rw [clamped, hmin]
      exact hcases 1 le_rfl
    · have hmin : PyFloat.min (.finite x) (.finite 1) = .finite x :=
        if_neg (by simpa [PyFloat.lt] using hx)
      rw [clamped, hmin]
      exact hcases x (not_lt.mp hx)

/-- No assessment is out of range. -/
theorem make_spec (baseline : BaselineRisk) {d : ℚ} (hle : baseline.1 ≤ d) (hone : d ≤ 1)
    (rationale : List (Rationale E)) (name : String) :
    ∃ assessment, RiskAssessment.make (.finite baseline.1) (.finite d) rationale name =
      some assessment ∧ assessment.dynamic = d :=
  ⟨_, dif_pos ⟨baseline.2, ⟨baseline.2.1.trans hle, hone⟩, not_lt.mpr hle⟩, rfl⟩

/-- **The assessor does not raise**, and the dynamic risk is the clamped score that it has parsed,
or the baseline. -/
theorem assess_spec (assessor : LLMRiskAssessor) (reply : Except E String) :
    ∃ assessment, assessor.assess py reply baseline = some assessment ∧
      .finite assessment.dynamic = (reply.toOption.bind (parsedScore py)).elim (.finite baseline.1)
        (clamped baseline) := by
  have hback : ∀ why, ∃ assessment, RiskAssessment.make (.finite baseline.1) (.finite baseline.1)
      [Rationale.fellBack why] assessor.name = some assessment ∧ assessment.dynamic = baseline.1 :=
    fun why => make_spec (E := E) baseline le_rfl baseline.2.2 _ _
  cases reply with
  | error e =>
    obtain ⟨assessment, hmake, hdynamic⟩ := hback (.inl e)
    exact ⟨assessment, hmake, congrArg _ hdynamic⟩
  | ok content =>
    rw [LLMRiskAssessor.assess, Except.toOption, Option.bind_some]
    rcases @parseReply_eq py content with
      ⟨e, hparse, hscore⟩ | ⟨score, rationale, hparse, hscore⟩
    · obtain ⟨assessment, hmake, hdynamic⟩ := hback (.inr e)
      rw [hparse, hscore]
      exact ⟨assessment, hmake, congrArg _ hdynamic⟩
    · obtain ⟨d, hclamped, hle, hone⟩ := clamped_spec baseline score
      obtain ⟨assessment, hmake, hdynamic⟩ := make_spec (E := E) baseline hle hone
        [.told rationale] assessor.name
      rw [hparse, hscore, Option.elim_some]
      show ∃ assessment, RiskAssessment.make (.finite baseline.1) (clamped baseline score)
        [.told rationale] assessor.name = some assessment ∧ _
      rw [hclamped]
      exact ⟨assessment, hmake, congrArg _ hdynamic⟩

/-- The score of a number is the float that it is read as. -/
theorem eq_of_toFloat {value : JsonDoc} {x score : PyFloat} (hfloat : toFloat py value = some x)
    (hscore : numericScore py value = some score) : x = score := by
  unfold numericScore at hscore
  split at hscore
  · rw [toFloat] at hfloat
    rw [hfloat] at hscore
    exact Option.some.inj hscore
  · exact Option.some.inj (hfloat.symm.trans hscore)
  · exact Option.some.inj (hfloat.symm.trans hscore)
  · cases hscore

theorem parsedScore_eq : parsedScore py content =
    (readObject (content.toList.dropWhile (· ≠ '\x7b'))).bind fun out =>
      if Readable out.1 out.2 then (out.1.get? "score").bind (toFloat py) else none := by
  rw [parsedScore, ← Option.bind_assoc, loadsObject_between, Option.bind_assoc]
  congr 1
  funext ⟨payload, rest⟩
  show (if Readable payload rest then some payload else none).bind _ = _
  split_ifs <;> rfl

/-! ### Which scores count -/

variable {assessment : RiskAssessment E} {score : PyFloat}

theorem finite_inj {x y : ℚ} : PyFloat.finite x = .finite y ↔ x = y :=
  ⟨fun h => PyFloat.finite.inj h, congrArg _⟩

section

variable {payload : JsonObject} {rest : List Char} {value : JsonDoc}

theorem parsedScore_of_found (h : Found content payload rest value) :
    parsedScore py content = if Readable payload rest then toFloat py value else none := by
  rw [parsedScore_eq, h.read, Option.bind_some, h.field, Option.bind_some]

theorem parsedScore_of_not_found (h : ∀ payload rest value, ¬Found content payload rest value) :
    parsedScore py content = none := by
  rw [parsedScore_eq, Option.bind_eq_none_iff]
  rintro ⟨payload, rest⟩ hread
  cases hfield : payload.get? "score" with
  | none => exact ite_self none
  | some value => exact absurd ⟨hread, hfield⟩ (h payload rest value)

theorem Found.unique {payload' : JsonObject} {rest' : List Char} {value' : JsonDoc}
    (h : Found content payload rest value) (h' : Found content payload' rest' value') :
    payload' = payload ∧ rest' = rest ∧ value' = value := by
  obtain ⟨rfl, rfl⟩ := Prod.mk.inj (Option.some.inj (h'.read.symm.trans h.read))
  exact ⟨rfl, rfl, Option.some.inj (h'.field.symm.trans h.field)⟩

theorem scores_iff_of_found (h : Found content payload rest value) :
    Scores py content score ↔ numericScore py value = some score := by
  rw [scores_iff]
  constructor
  · rintro ⟨payload', rest', value', h', hscore⟩
    obtain ⟨-, -, rfl⟩ := h.unique h'
    exact hscore
  · exact fun hscore => ⟨payload, rest, value, h, hscore⟩

theorem scoreStands_of_found (h : Found content payload rest value) :
    ScoreStands py baseline (.ok content : Except E String) ↔
      match numericScore py value with
      | some score => clamped baseline score = .finite baseline.1 ∨
          Readable payload rest ∧ toFloat py value = some score
      | none => ∀ score, toFloat py value = some score →
          clamped baseline score = .finite baseline.1 ∨ ¬Readable payload rest := by
  constructor
  · exact fun hstands => hstands content payload rest value rfl h
  · intro hmatch content' payload' rest' value' hreply h'
    obtain rfl := Except.ok.inj hreply
    obtain ⟨rfl, rfl, rfl⟩ := h.unique h'
    exact hmatch

end

theorem honoursReply_of_unscored (h : ∀ score, ¬Scores py content score) :
    HonoursReply py (.ok content) baseline assessment ↔
      .finite assessment.dynamic = PyFloat.finite baseline.1 := by
  constructor
  · intro hhonours
    refine congrArg _ (hhonours.unscored fun content' score hreply => ?_)
    rw [← Except.ok.inj hreply]
    exact h score
  · intro hdynamic
    refine ⟨fun content' score hreply hscores => ?_, fun _ => finite_inj.mp hdynamic⟩
    rw [← Except.ok.inj hreply] at hscores
    exact absurd hscores (h score)

theorem honoursReply_of_scores (h : ∀ score', Scores py content score' ↔ score' = score) :
    HonoursReply py (.ok content) baseline assessment ↔
      .finite assessment.dynamic = clamped baseline score := by
  constructor
  · intro hhonours
    exact hhonours.scored content score rfl ((h score).mpr rfl)
  · intro hdynamic
    refine ⟨fun content' score' hreply hscores => ?_, fun hnone => ?_⟩
    · rw [← Except.ok.inj hreply] at hscores
      rw [(h score').mp hscores]
      exact hdynamic
    · exact absurd ((h score).mpr rfl) (hnone content score rfl)

/-- **A numeric score counts** exactly when it does not raise the risk, or nothing behind the object
closes a brace, no integer is too long, and the score is not too large for a float.  Every other
reply leaves the baseline, unless a text or a truth value is read as a score. -/
theorem honoursReply_iff (assessor : LLMRiskAssessor) (py : PyConversions)
    (reply : Except E String) (baseline : BaselineRisk) :
    (∃ assessment, assessor.assess py reply baseline = some assessment ∧
        HonoursReply py reply baseline assessment) ↔ ScoreStands py baseline reply := by
  obtain ⟨assessment, hassess, hdynamic⟩ := @assess_spec E py baseline assessor reply
  have hresult : (∃ assessment, assessor.assess py reply baseline = some assessment ∧
      HonoursReply py reply baseline assessment) ↔ HonoursReply py reply baseline assessment := by
    rw [hassess]
    simp
  rw [hresult]
  cases reply with
  | error e =>
    have hbase := finite_inj.mp hdynamic
    exact iff_of_true ⟨fun _ _ h => (nomatch h), fun _ => hbase⟩ fun _ _ _ _ h => (nomatch h)
  | ok content =>
    rw [Except.toOption, Option.bind_some] at hdynamic
    by_cases hfound : ∃ payload rest value, Found content payload rest value
    · obtain ⟨payload, rest, value, hfound⟩ := hfound
      rw [parsedScore_of_found hfound] at hdynamic
      rw [scoreStands_of_found hfound]
      cases hnumeric : numericScore py value with
      | some score =>
        rw [honoursReply_of_scores fun score' => by
          rw [scores_iff_of_found hfound, hnumeric, Option.some.injEq, eq_comm], hdynamic]
        by_cases hreadable : Readable payload rest
        · cases hfloat : toFloat py value with
          | none => simp [hreadable, eq_comm]
          | some x =>
            obtain rfl := eq_of_toFloat hfloat hnumeric
            simp [hreadable]
        · simp [hreadable, eq_comm]
      | none =>
        rw [honoursReply_of_unscored fun score => by
          rw [scores_iff_of_found hfound, hnumeric]; simp, hdynamic]
        by_cases hreadable : Readable payload rest
        · cases hfloat : toFloat py value with
          | none => simp [hreadable]
          | some x => simp [hreadable]
        · simp [hreadable]
    · have hnone : ∀ payload rest value, ¬Found content payload rest value :=
        fun payload rest value h => hfound ⟨payload, rest, value, h⟩
      rw [parsedScore_of_not_found hnone] at hdynamic
      refine iff_of_true ((honoursReply_of_unscored fun score hscores => ?_).mpr hdynamic) ?_
      · obtain ⟨payload, rest, value, h, -⟩ := scores_iff.mp hscores
        exact hnone payload rest value h
      · intro content' payload rest value hreply h
        rw [← Except.ok.inj hreply] at h
        exact absurd h (hnone payload rest value)

/-! ### A brace behind the object -/

/-- Python's conversions, as far as the reply below needs them. -/
def sampleConversions : PyConversions where
  ofInt n := some (.finite n)
  ofNumber text := if text = "0.9".toList then .finite (9 / 10) else .nan
  ofUnits _ := none
  str _ := ""

/-- The score of 0.9 does not count, since the remark behind the object has braces. -/
theorem not_honoursReply_braces : ¬∃ assessment,
    (⟨"llm"⟩ : LLMRiskAssessor).assess sampleConversions
      (.ok "\x7b\"score\": 0.9\x7d for \x7bpath\x7d" : Except Empty String)
      ⟨3 / 10, by norm_num⟩ = some assessment ∧
    HonoursReply sampleConversions
      (.ok "\x7b\"score\": 0.9\x7d for \x7bpath\x7d" : Except Empty String)
      ⟨3 / 10, by norm_num⟩ assessment := by
  rintro ⟨assessment, hassess, hhonours⟩
  have hscores : Scores sampleConversions "\x7b\"score\": 0.9\x7d for \x7bpath\x7d"
      (.finite (9 / 10)) :=
    ⟨[], "\x7b\"score\": 0.9\x7d".toList, " for \x7bpath\x7d".toList, _, _, by decide, by decide,
      rfl, rfl, rfl⟩
  have hscored := hhonours.scored _ _ rfl hscores
  have hbase : some assessment.dynamic = some (3 / 10) := by
    rw [← Option.map_some (f := RiskAssessment.dynamic), ← hassess]
    decide +kernel
  rw [Option.some.inj hbase] at hscored
  revert hscored
  decide +kernel

end Taskweavn.Risk
