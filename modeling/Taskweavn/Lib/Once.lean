import Taskweavn.Lib.Dict
import Taskweavn.Lib.Run

/-!
# Recorded requests

A service that remembers its replies.  A request is looked up under its key; when
nothing is recorded it runs, and its reply is recorded, unless one has been recorded
by then.  A later request under the key gets the recorded reply, or is refused when
its hash is another one.

In `Handler.step` the three steps of a request are taken one at a time, and other
requests can come in between; a request can also raise, fail to be recorded, or be cut
off.

The service does not lock anything, so it needs help: `Quiet` says that no request is
looked up while another one under its key runs or is recorded, and that no request is
lost after it ran.  Then a key has at most one effect (`effect_unique`), and every
answer is that of the effect (`answer_of_effect`).
-/

namespace Lib

/-- How a request can end. -/
inductive Outcome (W R : Type)
  /-- It has raised before it did anything. -/
  | refused
  /-- It has raised in the middle. -/
  | raised (world : W)
  | replied (reply : R) (world : W)

/-- What is done with a request.  `swallows` says that a failure to record the reply
is passed over. -/
structure Handler (Q K H I W R : Type) where
  key : Q → K
  hash : Q → H
  run : Q → I → W → Outcome W R
  swallows : Bool

inductive Answer (R : Type)
  /-- The reply of this request itself. -/
  | reply (r : R)
  /-- The recorded reply of an earlier request. -/
  | replay (r : R)
  | conflict
  | raised
deriving DecidableEq

/-- How far a request is. -/
inductive Stage (R : Type)
  | lookup
  | run
  | record (r : R)
  | answered (a : Answer R)
  /-- It was cut off. -/
  | lost
deriving DecidableEq

structure Job (Q R : Type) where
  request : Q
  stage : Stage R

/-- The request has missed its record, and has not left one. -/
def Job.Open {Q R : Type} (job : Job Q R) : Prop :=
  job.stage = .run ∨ ∃ r, job.stage = .record r

/-- A run of the request of a job, with the worlds before and after. -/
structure Effect (Q W R : Type) where
  job : ℕ
  request : Q
  reply : Option R
  before : W
  after : W

structure Memo (Q K H W R : Type) where
  world : W
  records : Dict K (H × R) := Dict.empty
  jobs : List (Job Q R) := []
  /-- The runs so far; no step reads them. -/
  effects : List (Effect Q W R) := []

inductive MemoAction (Q I W : Type)
  | submit (q : Q)
  /-- The next step of a request. -/
  | advance (n : ℕ) (input : I)
  /-- The next step of a request is one with the records, and they are not available. -/
  | storeFails (n : ℕ)
  | cut (n : ℕ)
  /-- Somebody else changes the world. -/
  | other (world : W)

namespace Handler

variable {Q K H I W R : Type} [DecidableEq K] [DecidableEq H] (h : Handler Q K H I W R)

def put (records : Dict K (H × R)) (q : Q) (r : R) : Dict K (H × R) :=
  match records.get? (h.key q) with
  | some _ => records
  | none => records.set (h.key q) (h.hash q, r)

/-- What a record says to a request. -/
def answerOf (q : Q) (v : H × R) : Answer R := if v.1 = h.hash q then .replay v.2 else .conflict

/-- The next step of a job. -/
def next (s : Memo Q K H W R) (n : ℕ) (input : I) (q : Q) :
    Stage R → Option (Stage R × Memo Q K H W R)
  | .lookup =>
    match s.records.get? (h.key q) with
    | some v => some (.answered (h.answerOf q v), s)
    | none => some (.run, s)
  | .run =>
    match h.run q input s.world with
    | .refused => some (.answered .raised, s)
    | .raised world =>
      some (.answered .raised,
        { s with
          world := world
          effects := s.effects ++
            [{ job := n, request := q, reply := none, before := s.world, after := world }] })
    | .replied r world =>
      some (.record r,
        { s with
          world := world
          effects := s.effects ++
            [{ job := n, request := q, reply := some r, before := s.world, after := world }] })
  | .record r => some (.answered (.reply r), { s with records := h.put s.records q r })
  | .answered _ => none
  | .lost => none

/-- Where a request is left when the records are not available. -/
def failed : Stage R → Option (Stage R)
  | .lookup => some (.answered .raised)
  | .record r => some (.answered (if h.swallows then .reply r else .raised))
  | _ => none

def step (s : Memo Q K H W R) : MemoAction Q I W → Option (Memo Q K H W R)
  | .submit q => some { s with jobs := s.jobs ++ [⟨q, .lookup⟩] }
  | .advance n input =>
    (s.jobs[n]?).bind fun job =>
      (h.next s n input job.request job.stage).map fun (stage, s') =>
        { s' with jobs := s'.jobs.set n { job with stage := stage } }
  | .storeFails n =>
    (s.jobs[n]?).bind fun job =>
      (h.failed job.stage).map fun stage =>
        { s with jobs := s.jobs.set n { job with stage := stage } }
  | .cut n =>
    (s.jobs[n]?).bind fun job =>
      match job.stage with
      | .answered _ => none
      | _ => some { s with jobs := s.jobs.set n { job with stage := .lost } }
  | .other world => some { s with world := world }

/-- **Nobody gets in the way**: no request is looked up while another one under its
key is open, none raises in the middle or is cut off with its reply unrecorded, and the
records are available. -/
def Quiet (s : Memo Q K H W R) : MemoAction Q I W → Prop
  | .advance n input => ∀ q,
    (s.jobs[n]? = some ⟨q, .lookup⟩ →
      ∀ (m : ℕ) (job : Job Q R), s.jobs[m]? = some job → job.Open →
        h.key job.request ≠ h.key q) ∧
    (s.jobs[n]? = some ⟨q, .run⟩ → ∀ world, h.run q input s.world ≠ .raised world)
  | .storeFails _ => False
  | .cut n => ∀ q r, s.jobs[n]? ≠ some ⟨q, .record r⟩
  | _ => True

/-! ### A request alone -/

variable {h} {s s' : Memo Q K H W R} {n : ℕ} {q : Q} {input : I}

theorem step_hit {v : H × R} (hj : s.jobs[n]? = some ⟨q, .lookup⟩)
    (hv : s.records.get? (h.key q) = some v) :
    h.step s (.advance n input) =
      some { s with jobs := s.jobs.set n ⟨q, .answered (h.answerOf q v)⟩ } := by
  simp only [step, hj, Option.bind_some, next, hv, Option.map_some]

theorem step_miss (hj : s.jobs[n]? = some ⟨q, .lookup⟩) (hv : s.records.get? (h.key q) = none) :
    h.step s (.advance n input) = some { s with jobs := s.jobs.set n ⟨q, .run⟩ } := by
  simp only [step, hj, Option.bind_some, next, hv, Option.map_some]

theorem step_refused (hj : s.jobs[n]? = some ⟨q, .run⟩) (hr : h.run q input s.world = .refused) :
    h.step s (.advance n input) =
      some { s with jobs := s.jobs.set n ⟨q, .answered .raised⟩ } := by
  simp only [step, hj, Option.bind_some, next, hr, Option.map_some]

theorem step_replied {r : R} {w : W} (hj : s.jobs[n]? = some ⟨q, .run⟩)
    (hr : h.run q input s.world = .replied r w) :
    h.step s (.advance n input) =
      some ⟨w, s.records, s.jobs.set n ⟨q, .record r⟩,
        s.effects ++ [⟨n, q, some r, s.world, w⟩]⟩ := by
  simp only [step, hj, Option.bind_some, next, hr, Option.map_some]

theorem step_record {r : R} (hj : s.jobs[n]? = some ⟨q, .record r⟩) :
    h.step s (.advance n input) =
      some { s with records := h.put s.records q r
                    jobs := s.jobs.set n ⟨q, .answered (.reply r)⟩ } := by
  simp only [step, hj, Option.bind_some, next, Option.map_some]

theorem get?_set_job {jobs : List (Job Q R)} {job : Job Q R} (hj : jobs[n]? = some job)
    (job' : Job Q R) : (jobs.set n job')[n]? = some job' := by
  obtain ⟨hlt, _⟩ := List.getElem?_eq_some_iff.mp hj
  rw [List.getElem?_set_self hlt]

/-! ### What a quiet step does -/

variable (h) in
/-- The steps of a run in which nobody gets in the way. -/
inductive QuietStep (s : Memo Q K H W R) : MemoAction Q I W → Memo Q K H W R → Prop
  | submitted (q : Q) : QuietStep s (.submit q) { s with jobs := s.jobs ++ [⟨q, .lookup⟩] }
  | missed (n : ℕ) (input : I) (q : Q) (hj : s.jobs[n]? = some ⟨q, .lookup⟩)
      (hrec : s.records.get? (h.key q) = none)
      (halone : ∀ (m : ℕ) (job : Job Q R), s.jobs[m]? = some job → job.Open →
        h.key job.request ≠ h.key q) :
      QuietStep s (.advance n input) { s with jobs := s.jobs.set n ⟨q, .run⟩ }
  | found (n : ℕ) (input : I) (q : Q) (v : H × R) (hj : s.jobs[n]? = some ⟨q, .lookup⟩)
      (hrec : s.records.get? (h.key q) = some v) :
      QuietStep s (.advance n input)
        { s with jobs := s.jobs.set n ⟨q, .answered (h.answerOf q v)⟩ }
  | refused (n : ℕ) (input : I) (q : Q) (hj : s.jobs[n]? = some ⟨q, .run⟩)
      (hrun : h.run q input s.world = .refused) :
      QuietStep s (.advance n input) { s with jobs := s.jobs.set n ⟨q, .answered .raised⟩ }
  | ran (n : ℕ) (input : I) (q : Q) (r : R) (w : W) (hj : s.jobs[n]? = some ⟨q, .run⟩)
      (hrun : h.run q input s.world = .replied r w) :
      QuietStep s (.advance n input) ⟨w, s.records, s.jobs.set n ⟨q, .record r⟩,
        s.effects ++ [⟨n, q, some r, s.world, w⟩]⟩
  | recorded (n : ℕ) (input : I) (q : Q) (r : R) (hj : s.jobs[n]? = some ⟨q, .record r⟩) :
      QuietStep s (.advance n input)
        { s with records := h.put s.records q r
                 jobs := s.jobs.set n ⟨q, .answered (.reply r)⟩ }
  | cut (n : ℕ) (q : Q) (stage : Stage R) (hj : s.jobs[n]? = some ⟨q, stage⟩)
      (hstage : stage = .lookup ∨ stage = .run ∨ stage = .lost) :
      QuietStep s (.cut n) { s with jobs := s.jobs.set n ⟨q, .lost⟩ }
  | other (w : W) : QuietStep s (.other w) { s with world := w }

theorem quietStep {a : MemoAction Q I W} (hs : h.step s a = some s') (hq : h.Quiet s a) :
    h.QuietStep s a s' := by
  cases a with
  | submit q =>
    cases hs
    exact .submitted q
  | advance n input =>
    cases hj : s.jobs[n]? with
    | none =>
      simp only [step, hj, Option.bind_none] at hs
      cases hs
    | some job =>
      obtain ⟨q, stage⟩ := job
      obtain ⟨halone, hraise⟩ := hq q
      cases stage with
      | lookup =>
        cases hrec : s.records.get? (h.key q) with
        | none =>
          rw [step_miss hj hrec] at hs
          cases hs
          exact .missed n input q hj hrec (halone hj)
        | some v =>
          rw [step_hit hj hrec] at hs
          cases hs
          exact .found n input q v hj hrec
      | run =>
        cases hr : h.run q input s.world with
        | refused =>
          rw [step_refused hj hr] at hs
          cases hs
          exact .refused n input q hj hr
        | raised w => exact absurd hr (hraise hj w)
        | replied r w =>
          rw [step_replied hj hr] at hs
          cases hs
          exact .ran n input q r w hj hr
      | record r =>
        rw [step_record hj] at hs
        cases hs
        exact .recorded n input q r hj
      | answered a =>
        simp only [step, hj, Option.bind_some, next, Option.map_none] at hs
        cases hs
      | lost =>
        simp only [step, hj, Option.bind_some, next, Option.map_none] at hs
        cases hs
  | storeFails n => exact absurd hq id
  | cut n =>
    cases hj : s.jobs[n]? with
    | none =>
      simp only [step, hj, Option.bind_none] at hs
      cases hs
    | some job =>
      obtain ⟨q, stage⟩ := job
      have hq' := hq q
      simp only [step, hj, Option.bind_some] at hs
      cases stage with
      | lookup =>
        cases hs
        exact .cut n q _ hj (.inl rfl)
      | run =>
        cases hs
        exact .cut n q _ hj (.inr (.inl rfl))
      | record r => exact absurd hj (hq' r)
      | answered a => cases hs
      | lost =>
        cases hs
        exact .cut n q _ hj (.inr (.inr rfl))
  | other w =>
    cases hs
    exact .other w

/-! ### The invariant -/

def AnswerOk (h : Handler Q K H I W R) (effects : List (Effect Q W R)) (n : ℕ) (q : Q) :
    Answer R → Prop
  | .reply r => ∃ e ∈ effects, e.job = n ∧ e.request = q ∧ e.reply = some r
  | .replay r => ∃ e ∈ effects, h.key e.request = h.key q ∧ h.hash e.request = h.hash q ∧
      e.reply = some r
  | .conflict => ∃ e ∈ effects, h.key e.request = h.key q ∧ h.hash e.request ≠ h.hash q
  | .raised => ∃ input world, h.run q input world = .refused

/-- The state of a service that nobody disturbs. -/
structure Inv (h : Handler Q K H I W R) (s : Memo Q K H W R) : Prop where
  /-- An open job has its key for itself. -/
  open_free : ∀ (n : ℕ) (job : Job Q R), s.jobs[n]? = some job → job.Open →
    s.records.get? (h.key job.request) = none
  open_unique : ∀ (n m : ℕ) (job job' : Job Q R), s.jobs[n]? = some job → s.jobs[m]? = some job' →
    job.Open → job'.Open → h.key job.request = h.key job'.request → n = m
  once : (s.effects.map (fun e => h.key e.request)).Nodup
  /-- The reply of an effect is recorded, or its job is about to do so. -/
  kept : ∀ e ∈ s.effects, ∃ r, e.reply = some r ∧
    (s.records.get? (h.key e.request) = some (h.hash e.request, r) ∨
      s.jobs[e.job]? = some ⟨e.request, .record r⟩)
  recorded : ∀ k v, s.records.get? k = some v →
    ∃ e ∈ s.effects, h.key e.request = k ∧ h.hash e.request = v.1 ∧ e.reply = some v.2
  at_record : ∀ (n : ℕ) (q : Q) (r : R), s.jobs[n]? = some ⟨q, .record r⟩ →
    ∃ e ∈ s.effects, e.job = n ∧ e.request = q ∧ e.reply = some r
  answers : ∀ (n : ℕ) (q : Q) (a : Answer R), s.jobs[n]? = some ⟨q, .answered a⟩ →
    h.AnswerOk s.effects n q a

theorem get?_set_cases {jobs : List (Job Q R)} {m : ℕ} {job job' : Job Q R}
    (hm : (jobs.set n job')[m]? = some job) : (m = n ∧ job = job') ∨
    (m ≠ n ∧ jobs[m]? = some job) := by
  by_cases hmn : m = n
  · subst hmn
    rw [List.getElem?_set_self'] at hm
    obtain ⟨_, _, rfl⟩ := Option.map_eq_some_iff.mp hm
    exact .inl ⟨rfl, rfl⟩
  · rw [List.getElem?_set_ne (Ne.symm hmn)] at hm
    exact .inr ⟨hmn, hm⟩

theorem get?_append_cases {jobs : List (Job Q R)} {m : ℕ} {job job' : Job Q R}
    (hm : (jobs ++ [job'])[m]? = some job) : jobs[m]? = some job ∨ job = job' := by
  rw [List.getElem?_append] at hm
  split at hm
  · exact .inl hm
  · obtain ⟨_, hlast⟩ := List.getElem?_eq_some_iff.mp hm
    rw [← hlast]
    exact .inr (List.getElem_singleton _)

omit [DecidableEq K] [DecidableEq H] in
theorem AnswerOk.mono {effects effects' : List (Effect Q W R)} {a : Answer R}
    (hsub : ∀ e ∈ effects, e ∈ effects') (ha : h.AnswerOk effects n q a) :
    h.AnswerOk effects' n q a := by
  cases a with
  | reply r =>
    obtain ⟨e, he, hrest⟩ := ha
    exact ⟨e, hsub e he, hrest⟩
  | replay r =>
    obtain ⟨e, he, hrest⟩ := ha
    exact ⟨e, hsub e he, hrest⟩
  | conflict =>
    obtain ⟨e, he, hrest⟩ := ha
    exact ⟨e, hsub e he, hrest⟩
  | raised => exact ha

theorem not_open_lookup : ¬(⟨q, .lookup⟩ : Job Q R).Open := by
  rintro (h | ⟨r, h⟩) <;> cases h

omit [DecidableEq H] in
theorem Inv.set_closed {stage stage' : Stage R} (hi : h.Inv s) (hj : s.jobs[n]? = some ⟨q, stage⟩)
    (hfrom : ∀ r, stage ≠ .record r) (hto : ¬(⟨q, stage'⟩ : Job Q R).Open)
    (hans : ∀ a, stage' = .answered a → h.AnswerOk s.effects n q a) :
    h.Inv { s with jobs := s.jobs.set n ⟨q, stage'⟩ } := by
  have hopen : ∀ (m : ℕ) (job : Job Q R), (s.jobs.set n ⟨q, stage'⟩)[m]? = some job → job.Open →
      s.jobs[m]? = some job := by
    intro m job hm hop
    rcases get?_set_cases hm with ⟨_, rfl⟩ | ⟨_, hm⟩
    · exact absurd hop hto
    · exact hm
  constructor
  · intro m job hm hop
    exact hi.open_free m job (hopen m job hm hop) hop
  · intro m m' job job' hm hm' hop hop' hkey
    exact hi.open_unique m m' job job' (hopen m job hm hop) (hopen m' job' hm' hop') hop hop' hkey
  · exact hi.once
  · intro e he
    obtain ⟨r, hr, hrec | hjob⟩ := hi.kept e he
    · exact ⟨r, hr, .inl hrec⟩
    · refine ⟨r, hr, .inr ?_⟩
      have hne : n ≠ e.job := by
        rintro rfl
        cases hj.symm.trans hjob
        exact hfrom r rfl
      exact (List.getElem?_set_ne hne).trans hjob
  · exact hi.recorded
  · intro m q' r hm
    exact hi.at_record m q' r (hopen m _ hm (.inr ⟨r, rfl⟩))
  · intro m q' a hm
    rcases get?_set_cases hm with ⟨rfl, heq⟩ | ⟨_, hm⟩
    · cases heq
      exact hans a rfl
    · exact hi.answers m q' a hm

omit [DecidableEq H] in
theorem Inv.set_run (hi : h.Inv s) (hj : s.jobs[n]? = some ⟨q, .lookup⟩)
    (hrec : s.records.get? (h.key q) = none)
    (halone : ∀ (m : ℕ) (job : Job Q R), s.jobs[m]? = some job → job.Open →
      h.key job.request ≠ h.key q) :
    h.Inv { s with jobs := s.jobs.set n ⟨q, .run⟩ } := by
  constructor
  · intro m job hm hop
    rcases get?_set_cases hm with ⟨_, rfl⟩ | ⟨_, hm⟩
    · exact hrec
    · exact hi.open_free m job hm hop
  · intro m m' job job' hm hm' hop hop' hkey
    rcases get?_set_cases hm with ⟨hmn, rfl⟩ | ⟨_, hold⟩ <;>
      rcases get?_set_cases hm' with ⟨hmn', rfl⟩ | ⟨_, hold'⟩
    · exact hmn.trans hmn'.symm
    · exact absurd hkey.symm (halone m' job' hold' hop')
    · exact absurd hkey (halone m job hold hop)
    · exact hi.open_unique m m' job job' hold hold' hop hop' hkey
  · exact hi.once
  · intro e he
    obtain ⟨r, hr, hrec' | hjob⟩ := hi.kept e he
    · exact ⟨r, hr, .inl hrec'⟩
    · refine ⟨r, hr, .inr ?_⟩
      have hne : n ≠ e.job := by
        rintro rfl
        cases hj.symm.trans hjob
      exact (List.getElem?_set_ne hne).trans hjob
  · exact hi.recorded
  · intro m q' r hm
    rcases get?_set_cases hm with ⟨_, heq⟩ | ⟨_, hm⟩
    · cases heq
    · exact hi.at_record m q' r hm
  · intro m q' a hm
    rcases get?_set_cases hm with ⟨_, heq⟩ | ⟨_, hm⟩
    · cases heq
    · exact hi.answers m q' a hm

omit [DecidableEq H] in
theorem Inv.fresh (hi : h.Inv s) (hj : s.jobs[n]? = some ⟨q, .run⟩) :
    ∀ e ∈ s.effects, h.key e.request ≠ h.key q := by
  intro e he hkey
  obtain ⟨r, _, hrec | hjob⟩ := hi.kept e he
  · have := hi.open_free n ⟨q, .run⟩ hj (.inl rfl)
    rw [hkey, this] at hrec
    cases hrec
  · have hsame := hi.open_unique e.job n _ _ hjob hj (.inr ⟨r, rfl⟩) (.inl rfl) hkey
    rw [hsame, hj] at hjob
    cases hjob

omit [DecidableEq H] in
theorem Inv.set_record {r : R} {w : W} (hi : h.Inv s) (hj : s.jobs[n]? = some ⟨q, .run⟩) :
    h.Inv ⟨w, s.records, s.jobs.set n ⟨q, .record r⟩,
      s.effects ++ [⟨n, q, some r, s.world, w⟩]⟩ := by
  have hself := get?_set_job hj ⟨q, .record r⟩
  have hopen : ∀ (m : ℕ) (job : Job Q R), (s.jobs.set n ⟨q, .record r⟩)[m]? = some job → job.Open →
      ∃ job', s.jobs[m]? = some job' ∧ job'.request = job.request ∧ job'.Open := by
    intro m job hm hop
    rcases get?_set_cases hm with ⟨rfl, rfl⟩ | ⟨_, hm⟩
    · exact ⟨_, hj, rfl, .inl rfl⟩
    · exact ⟨job, hm, rfl, hop⟩
  have hmem : ∀ e ∈ s.effects, e ∈ s.effects ++ [⟨n, q, some r, s.world, w⟩] :=
    fun e he => List.mem_append_left _ he
  constructor
  · intro m job hm hop
    obtain ⟨job', hm', hreq, hop'⟩ := hopen m job hm hop
    rw [← hreq]
    exact hi.open_free m job' hm' hop'
  · intro m m' job job' hm hm' hop hop' hkey
    obtain ⟨j, hmj, hreq, hopj⟩ := hopen m job hm hop
    obtain ⟨j', hmj', hreq', hopj'⟩ := hopen m' job' hm' hop'
    rw [← hreq, ← hreq'] at hkey
    exact hi.open_unique m m' j j' hmj hmj' hopj hopj' hkey
  · rw [List.map_append, List.nodup_append]
    refine ⟨hi.once, List.nodup_singleton _, ?_⟩
    intro k hk k' hk' heq
    obtain ⟨e, he, rfl⟩ := List.mem_map.mp hk
    rw [List.map_singleton, List.mem_singleton] at hk'
    exact hi.fresh hj e he (heq.trans hk')
  · intro e he
    rcases List.mem_append.mp he with he | he
    · obtain ⟨r', hr', hrec | hjob⟩ := hi.kept e he
      · exact ⟨r', hr', .inl hrec⟩
      · refine ⟨r', hr', .inr ?_⟩
        have hne : n ≠ e.job := by
          rintro rfl
          cases hj.symm.trans hjob
        exact (List.getElem?_set_ne hne).trans hjob
    · rw [List.mem_singleton.mp he]
      exact ⟨r, rfl, .inr hself⟩
  · intro k v hv
    obtain ⟨e, he, hrest⟩ := hi.recorded k v hv
    exact ⟨e, hmem e he, hrest⟩
  · intro m q' r' hm
    rcases get?_set_cases hm with ⟨rfl, heq⟩ | ⟨_, hm⟩
    · cases heq
      exact ⟨_, List.mem_append_right _ (List.mem_singleton_self _), rfl, rfl, rfl⟩
    · obtain ⟨e, he, hrest⟩ := hi.at_record m q' r' hm
      exact ⟨e, hmem e he, hrest⟩
  · intro m q' a hm
    rcases get?_set_cases hm with ⟨_, heq⟩ | ⟨_, hm⟩
    · cases heq
    · exact (hi.answers m q' a hm).mono hmem

omit [DecidableEq H] in
theorem get?_put (records : Dict K (H × R)) (q : Q) (r : R) (k : K) :
    (h.put records q r).get? k =
      if records.get? (h.key q) = none ∧ h.key q = k then some (h.hash q, r)
      else records.get? k := by
  unfold put
  cases hrec : records.get? (h.key q) with
  | some v => simp
  | none => simp [Dict.get?_set]

omit [DecidableEq H] in
theorem Inv.set_answered {r : R} (hi : h.Inv s) (hj : s.jobs[n]? = some ⟨q, .record r⟩) :
    h.Inv { s with records := h.put s.records q r
                   jobs := s.jobs.set n ⟨q, .answered (.reply r)⟩ } := by
  have hnone := hi.open_free n _ hj (.inr ⟨r, rfl⟩)
  have hget : ∀ k, (h.put s.records q r).get? k =
      if h.key q = k then some (h.hash q, r) else s.records.get? k := by
    intro k
    rw [get?_put]
    simp only [hnone, true_and]
  have hopen : ∀ (m : ℕ) (job : Job Q R), (s.jobs.set n ⟨q, .answered (.reply r)⟩)[m]? = some job →
      job.Open → m ≠ n ∧ s.jobs[m]? = some job := by
    intro m job hm hop
    rcases get?_set_cases hm with ⟨_, rfl⟩ | hm
    · rcases hop with h' | ⟨_, h'⟩ <;> cases h'
    · exact hm
  obtain ⟨e₀, he₀, hjob₀, hreq₀, hrep₀⟩ := hi.at_record n q r hj
  constructor
  · intro m job hm hop
    obtain ⟨hmn, hm⟩ := hopen m job hm hop
    show (h.put s.records q r).get? _ = none
    rw [hget, if_neg]
    · exact hi.open_free m job hm hop
    · intro hkey
      exact hmn (hi.open_unique m n job _ hm hj hop (.inr ⟨r, rfl⟩) hkey.symm)
  · intro m m' job job' hm hm' hop hop' hkey
    exact hi.open_unique m m' job job' (hopen m job hm hop).2 (hopen m' job' hm' hop').2
      hop hop' hkey
  · exact hi.once
  · intro e he
    obtain ⟨r', hr', hrec | hjob⟩ := hi.kept e he
    · refine ⟨r', hr', .inl ?_⟩
      show (h.put s.records q r).get? _ = _
      rw [hget, if_neg, hrec]
      intro hkey
      rw [← hkey, hnone] at hrec
      cases hrec
    · by_cases hen : n = e.job
      · subst hen
        obtain ⟨hq, hst⟩ := Job.mk.inj (Option.some.inj (hj.symm.trans hjob))
        cases hst
        refine ⟨r, hr', .inl ?_⟩
        show (h.put s.records q r).get? _ = _
        rw [hget, ← hq, if_pos rfl]
      · exact ⟨r', hr', .inr ((List.getElem?_set_ne hen).trans hjob)⟩
  · intro k v hv
    replace hv : (h.put s.records q r).get? k = some v := hv
    rw [hget] at hv
    split at hv
    · next hk =>
      cases hv
      exact ⟨e₀, he₀, by rw [hreq₀, hk], by rw [hreq₀], hrep₀⟩
    · exact hi.recorded k v hv
  · intro m q' r' hm
    rcases get?_set_cases hm with ⟨_, heq⟩ | ⟨_, hm⟩
    · cases heq
    · exact hi.at_record m q' r' hm
  · intro m q' a hm
    rcases get?_set_cases hm with ⟨rfl, heq⟩ | ⟨_, hm⟩
    · cases heq
      exact ⟨e₀, he₀, hjob₀, hreq₀, hrep₀⟩
    · exact hi.answers m q' a hm

omit [DecidableEq H] in
theorem inv_empty (w : W) : h.Inv { world := w } := by
  constructor <;> simp

theorem inv_step {a : MemoAction Q I W} (hi : h.Inv s) (hs : h.QuietStep s a s') : h.Inv s' := by
  cases hs with
  | submitted q =>
    have hold : ∀ (m : ℕ) (job : Job Q R), (s.jobs ++ [⟨q, .lookup⟩])[m]? = some job →
        job.stage ≠ .lookup → s.jobs[m]? = some job := by
      intro m job hm hne
      rcases get?_append_cases hm with hm | rfl
      · exact hm
      · exact absurd rfl hne
    have hne : ∀ {job : Job Q R}, job.Open → job.stage ≠ .lookup := by
      rintro job (hst | ⟨r, hst⟩) heq <;> rw [hst] at heq <;> cases heq
    constructor
    · intro m job hm hop
      exact hi.open_free m job (hold m job hm (hne hop)) hop
    · intro m m' job job' hm hm' hop hop' hkey
      exact hi.open_unique m m' job job' (hold m job hm (hne hop)) (hold m' job' hm' (hne hop'))
        hop hop' hkey
    · exact hi.once
    · intro e he
      obtain ⟨r, hr, hrec | hjob⟩ := hi.kept e he
      · exact ⟨r, hr, .inl hrec⟩
      · refine ⟨r, hr, .inr ?_⟩
        obtain ⟨hlt, _⟩ := List.getElem?_eq_some_iff.mp hjob
        exact (List.getElem?_append_left hlt).trans hjob
    · exact hi.recorded
    · intro m q' r hm
      exact hi.at_record m q' r (hold m _ hm (by simp))
    · intro m q' a hm
      exact hi.answers m q' a (hold m _ hm (by simp))
  | missed n input q hj hrec halone => exact hi.set_run hj hrec halone
  | found n input q v hj hrec =>
    refine hi.set_closed hj (by simp) ?_ ?_
    · rintro (hst | ⟨_, hst⟩) <;> cases hst
    · intro a ha
      cases ha
      obtain ⟨e, he, hkey, hhash, hrep⟩ := hi.recorded _ v hrec
      unfold answerOf
      split
      · next heq => exact ⟨e, he, hkey, hhash.trans heq, hrep⟩
      · next hne => exact ⟨e, he, hkey, fun heq => hne (hhash.symm.trans heq)⟩
  | refused n input q hj hrun =>
    refine hi.set_closed hj (by simp) ?_ ?_
    · rintro (hst | ⟨_, hst⟩) <;> cases hst
    · intro a ha
      cases ha
      exact ⟨input, s.world, hrun⟩
  | ran n input q r w hj hrun => exact hi.set_record hj
  | recorded n input q r hj => exact hi.set_answered hj
  | cut n q stage hj hstage =>
    refine hi.set_closed hj ?_ ?_ (by simp)
    · rintro r rfl
      simp at hstage
    · rintro (hst | ⟨_, hst⟩) <;> cases hst
  | other w => exact ⟨hi.open_free, hi.open_unique, hi.once, hi.kept, hi.recorded, hi.at_record,
      hi.answers⟩

/-- **The invariant holds in every run in which nobody gets in the way.** -/
theorem inv_run {world : W} {actions : List (MemoAction Q I W)}
    (hrun : execAll h.step { world := world } actions = some s)
    (hq : Along h.step h.Quiet { world := world } actions) : h.Inv s :=
  execAll_invariant (I := h.Inv) (fun _ _ _ hi hq hs => inv_step hi (quietStep hs hq)) actions _ s
    (inv_empty world) hq hrun

/-! ### What it says -/

omit [DecidableEq H] in
/-- **A key has at most one effect.** -/
theorem Inv.effect_unique (hi : h.Inv s) {e e' : Effect Q W R} (he : e ∈ s.effects)
    (he' : e' ∈ s.effects) (hkey : h.key e.request = h.key e'.request) : e = e' :=
  List.inj_on_of_nodup_map hi.once he he' hkey

omit [DecidableEq H] in
/-- **Every answer is that of the effect of its key**: the reply for a request with the
same hash, and a conflict for any other.  Only a request that was refused has none. -/
theorem Inv.answer_of_effect (hi : h.Inv s) {e : Effect Q W R} (he : e ∈ s.effects)
    {a : Answer R} (hj : s.jobs[n]? = some ⟨q, .answered a⟩) (hkey : h.key e.request = h.key q) :
    (h.hash e.request = h.hash q ∧ ∃ r, e.reply = some r ∧ (a = .reply r ∨ a = .replay r)) ∨
    (h.hash e.request ≠ h.hash q ∧ a = .conflict) ∨
    (a = .raised ∧ ∃ input world, h.run q input world = .refused) := by
  have hans := hi.answers n q a hj
  cases a with
  | reply r =>
    obtain ⟨e', he', _, hreq, hrep⟩ := hans
    obtain rfl := hi.effect_unique he he' (by rw [hkey, hreq])
    exact .inl ⟨by rw [hreq], r, hrep, .inl rfl⟩
  | replay r =>
    obtain ⟨e', he', hkey', hhash, hrep⟩ := hans
    obtain rfl := hi.effect_unique he he' (hkey.trans hkey'.symm)
    exact .inl ⟨hhash, r, hrep, .inr rfl⟩
  | conflict =>
    obtain ⟨e', he', hkey', hhash⟩ := hans
    obtain rfl := hi.effect_unique he he' (hkey.trans hkey'.symm)
    exact .inr (.inl ⟨hhash, rfl⟩)
  | raised => exact .inr (.inr ⟨rfl, hans⟩)

/-! ### Where the effects come from -/

variable (h) in
/-- The effect is a run of its request. -/
def Ran (e : Effect Q W R) : Prop :=
  ∃ input, h.run e.request input e.before =
    match e.reply with
    | some r => .replied r e.after
    | none => .raised e.after

theorem effects_step {a : MemoAction Q I W} (hs : h.step s a = some s') :
    s'.effects = s.effects ∨ ∃ e, s'.effects = s.effects ++ [e] ∧ h.Ran e := by
  cases a with
  | submit q =>
    cases hs
    exact .inl rfl
  | advance n input =>
    obtain ⟨⟨q, stage⟩, _, hs⟩ := Option.bind_eq_some_iff.mp hs
    obtain ⟨⟨stage', t⟩, hnext, heq⟩ := Option.map_eq_some_iff.mp hs
    cases heq
    cases stage with
    | lookup =>
      simp only [next] at hnext
      split at hnext <;> cases hnext <;> exact .inl rfl
    | run =>
      simp only [next] at hnext
      split at hnext
      · cases hnext
        exact .inl rfl
      · next hrun =>
        cases hnext
        exact .inr ⟨_, rfl, input, hrun⟩
      · next hrun =>
        cases hnext
        exact .inr ⟨_, rfl, input, hrun⟩
    | record r =>
      cases hnext
      exact .inl rfl
    | answered a => cases hnext
    | lost => cases hnext
  | storeFails n =>
    obtain ⟨job, _, hs⟩ := Option.bind_eq_some_iff.mp hs
    obtain ⟨stage, _, heq⟩ := Option.map_eq_some_iff.mp hs
    cases heq
    exact .inl rfl
  | cut n =>
    obtain ⟨job, _, hs⟩ := Option.bind_eq_some_iff.mp hs
    split at hs
    · cases hs
    · cases hs
      exact .inl rfl
  | other w =>
    cases hs
    exact .inl rfl

/-- **Every effect is a run of its request**, in any run of the service. -/
theorem ran_run {actions : List (MemoAction Q I W)} {world : W}
    (hrun : execAll h.step { world := world } actions = some s) : ∀ e ∈ s.effects, h.Ran e := by
  refine execAll_always (I := fun s => ∀ e ∈ s.effects, h.Ran e) ?_ ?_ hrun
  · intro s a t hs hstep e he
    rcases effects_step hstep with heq | ⟨e', heq, hran⟩
    · exact hs e (heq ▸ he)
    · rw [heq] at he
      rcases List.mem_append.mp he with he | he
      · exact hs e he
      · rwa [List.mem_singleton.mp he]
  · intro e he
    cases he

/-! ### Where the requests come from -/

def Requested (s : Memo Q K H W R) (q : Q) : Prop :=
  (∃ (n : ℕ) (stage : Stage R), s.jobs[n]? = some ⟨q, stage⟩) ∨ ∃ e ∈ s.effects, e.request = q

omit [DecidableEq K] [DecidableEq H] in
theorem requested_set {stage stage' : Stage R} {q' : Q} (hj : s.jobs[n]? = some ⟨q', stage⟩)
    {records : Dict K (H × R)} {w : W} {effects : List (Effect Q W R)}
    (heff : ∀ e ∈ effects, e ∈ s.effects ∨ e.request = q')
    (hr : Requested (⟨w, records, s.jobs.set n ⟨q', stage'⟩, effects⟩ : Memo Q K H W R) q) :
    Requested s q := by
  rcases hr with ⟨m, st, hm⟩ | ⟨e, he, rfl⟩
  · rcases get?_set_cases hm with ⟨_, heq⟩ | ⟨_, hm⟩
    · cases heq
      exact .inl ⟨n, stage, hj⟩
    · exact .inl ⟨m, st, hm⟩
  · rcases heff e he with he | rfl
    · exact .inr ⟨e, he, rfl⟩
    · exact .inl ⟨n, stage, hj⟩

theorem requested_step {a : MemoAction Q I W} (hs : h.QuietStep s a s') (hr : Requested s' q) :
    Requested s q ∨ a = .submit q := by
  cases hs with
  | submitted q' =>
    rcases hr with ⟨m, st, hm⟩ | he
    · rcases get?_append_cases hm with hm | heq
      · exact .inl (.inl ⟨m, st, hm⟩)
      · cases heq
        exact .inr rfl
    · exact .inl (.inr he)
  | missed n input q' hj => exact .inl (requested_set hj (fun _ he => .inl he) hr)
  | found n input q' v hj => exact .inl (requested_set hj (fun _ he => .inl he) hr)
  | refused n input q' hj => exact .inl (requested_set hj (fun _ he => .inl he) hr)
  | ran n input q' r w hj =>
    refine .inl (requested_set hj ?_ hr)
    intro e he
    rcases List.mem_append.mp he with he | he
    · exact .inl he
    · rw [List.mem_singleton.mp he]
      exact .inr rfl
  | recorded n input q' r hj => exact .inl (requested_set hj (fun _ he => .inl he) hr)
  | cut n q' stage hj => exact .inl (requested_set hj (fun _ he => .inl he) hr)
  | other w => exact .inl hr

/-- A condition on every request that is submitted and those before it holds of any two
requests. -/
theorem requested_run {P : Q → Q → Prop} {world : W} {actions : List (MemoAction Q I W)}
    (hrefl : ∀ q, P q q) (hsymm : ∀ q q', P q q' → P q' q)
    (hrun : execAll h.step { world := world } actions = some s)
    (hq : Along h.step (fun s a => h.Quiet s a ∧
      ∀ q, a = .submit q → ∀ q', Requested s q' → P q' q) { world := world } actions) :
    ∀ q q', Requested s q → Requested s q' → P q q' := by
  refine execAll_invariant (I := fun s => ∀ q q', Requested s q → Requested s q' → P q q')
    ?_ actions _ s ?_ hq hrun
  · intro s a s' hi ha hs q q' hr hr'
    have hstep := quietStep hs ha.1
    rcases requested_step hstep hr with hold | rfl <;>
      rcases requested_step hstep hr' with hold' | heq
    · exact hi q q' hold hold'
    · exact ha.2 q' heq q hold
    · exact hsymm _ _ (ha.2 q rfl q' hold')
    · cases heq
      exact hrefl q
  · rintro q q' (⟨_, _, hm⟩ | ⟨e, he, _⟩)
    · cases hm
    · cases he

theorem requested_submitted {world : W} {actions : List (MemoAction Q I W)}
    (hrun : execAll h.step { world := world } actions = some s)
    (hq : Along h.step h.Quiet { world := world } actions) (hr : Requested s q) :
    .submit q ∈ actions := by
  have hall : ∀ q, Requested s q → .submit q ∈ actions := by
    refine execAll_invariant (A := fun s a => h.Quiet s a ∧ a ∈ actions)
      (I := fun s => ∀ q, Requested s q → .submit q ∈ actions) ?_ actions _ s ?_ ?_ hrun
    · intro s a s' hi ha hs q hr
      rcases requested_step (quietStep hs ha.1) hr with hold | rfl
      · exact hi q hold
      · exact ha.2
    · rintro q (⟨_, _, hm⟩ | ⟨e, he, _⟩)
      · cases hm
      · cases he
    · exact along_mem hq (fun _ ha => ha)
  exact hall q hr

end Handler

end Lib
