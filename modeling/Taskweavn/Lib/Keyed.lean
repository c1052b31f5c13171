import Taskweavn.Lib.Dict
import Taskweavn.Lib.Run

/-!
# Requests that carry several keys

A service that remembers its replies, and whose requests have parts.  A request may
have a key as a whole and each part may have one, but the reply is recorded under one
key only, the one the request is looked up under.  `Keyed` is such a service and
`Keyed.serve` one request to it; `history` is what happened so far, which no request
reads.

What one hopes for is `AtMostOnce`: a key is carried out once, and a request that comes
with a key again runs nothing and gets the first reply.  The service looks at one key,
so it does not keep that promise by itself.  `Told` says when it can: the parts of a
request have different keys, a key comes again only in a request that is looked up under
the same key, and the first request with the key was one that does not raise in the world
in which it came.  `atMostOnce_final` is the theorem: what was answered is then remembered.
-/

namespace Lib

/-- A service with requests `Q`, keys `K`, exceptions `E`, replies `R`, records `V` and
a world `W`. -/
structure Keyed (Q K E R V W : Type) where
  /-- The keys a request comes with. -/
  keys : Q → List K
  /-- The one that it is looked up under. -/
  lookup : Q → Option K
  /-- Those of its parts. -/
  parts : Q → List K
  lookup_mem : ∀ q k, lookup q = some k → k ∈ keys q
  parts_subset : ∀ q, parts q ⊆ keys q
  /-- What a request gives and leaves behind, and the keys of the parts that were
  carried out. -/
  run : Q → W → Except E R × W × List K
  record : K → Q → R → V
  reply : V → R
  run_parts : ∀ q w, (run q w).2.2.Sublist (parts q)
  reply_record : ∀ k q r, reply (record k q r) = r

namespace Keyed

variable {Q K E R V W : Type}

/-- One request and what became of it. -/
structure Turn (Q K E R W : Type) where
  request : Q
  answer : Except E R
  /-- The keys of the parts that were carried out. -/
  ran : List K
  before : W
  after : W

structure State (Q K E R V W : Type) where
  world : W
  records : Dict K V := Dict.empty
  /-- The requests so far. -/
  history : List (Turn Q K E R W) := []

variable (svc : Keyed Q K E R V W)

/-- Two requests have a key in common. -/
def Shares (q q' : Q) : Prop := ∃ k ∈ svc.keys q, k ∈ svc.keys q'

/-- The later of two turns is a replay of the earlier one. -/
def Replays (t t' : Turn Q K E R W) : Prop :=
  ∃ r, t.answer = .ok r ∧ t'.answer = .ok r ∧ t'.ran = [] ∧ t'.after = t'.before

/-- **Every key at most once.** -/
structure AtMostOnce (history : List (Turn Q K E R W)) : Prop where
  once : (history.flatMap Turn.ran).Nodup
  replays : history.Pairwise fun t t' => svc.Shares t.request t'.request → Replays t t'

variable {svc} in
theorem shares_of_lookup {q q' : Q} {k : K} (hq : svc.lookup q = some k)
    (hq' : svc.lookup q' = some k) : svc.Shares q q' :=
  ⟨k, svc.lookup_mem q k hq, svc.lookup_mem q' k hq'⟩

variable {svc} in
theorem AtMostOnce.snoc {history : List (Turn Q K E R W)} {t' : Turn Q K E R W}
    (h : svc.AtMostOnce history) (hnodup : t'.ran.Nodup)
    (hnew : ∀ t ∈ history, ∀ k ∈ t.ran, k ∉ t'.ran)
    (hreplays : ∀ t ∈ history, svc.Shares t.request t'.request → Replays t t') :
    svc.AtMostOnce (history ++ [t']) := by
  constructor
  · rw [List.flatMap_append, List.flatMap_singleton, List.nodup_append]
    refine ⟨h.once, hnodup, ?_⟩
    intro k hk k' hk' heq
    obtain ⟨t, ht, hkt⟩ := List.mem_flatMap.mp hk
    exact hnew t ht k hkt (heq ▸ hk')
  · rw [List.pairwise_append]
    refine ⟨h.replays, List.pairwise_singleton _ _, ?_⟩
    intro t ht t'' ht''
    rw [List.mem_singleton.mp ht'']
    exact hreplays t ht

variable [DecidableEq K]

def put (records : Dict K V) (k : K) (v : V) : Dict K V :=
  match records.get? k with
  | some _ => records
  | none => records.set k v

def remember (records : Dict K V) (q : Q) (r : R) : Dict K V :=
  match svc.lookup q with
  | some k => put records k (svc.record k q r)
  | none => records

/-- The record that a request finds. -/
def found (s : State Q K E R V W) (q : Q) : Option V := (svc.lookup q).bind s.records.get?

def serve (s : State Q K E R V W) (q : Q) : Except E R × State Q K E R V W :=
  match svc.found s q with
  | some v =>
    (.ok (svc.reply v),
      { s with history := s.history ++ [⟨q, .ok (svc.reply v), [], s.world, s.world⟩] })
  | none =>
    match svc.run q s.world with
    | (.ok r, w, ran) =>
      (.ok r, ⟨w, svc.remember s.records q r, s.history ++ [⟨q, .ok r, ran, s.world, w⟩]⟩)
    | (.error e, w, ran) =>
      (.error e, ⟨w, s.records, s.history ++ [⟨q, .error e, ran, s.world, w⟩]⟩)

/-- The service can tell which keys of the request came before. -/
structure Told (s : State Q K E R V W) (q : Q) : Prop where
  parts : (svc.parts q).Nodup
  lookup : ∀ t ∈ s.history, svc.Shares t.request q →
    ∃ k, svc.lookup t.request = some k ∧ svc.lookup q = some k
  /-- The first of those before it does not raise. -/
  answered : ∀ pre t post, s.history = pre ++ t :: post → svc.Shares t.request q →
    (∀ u ∈ pre, ¬svc.Shares u.request q) → (svc.run t.request t.before).1.isOk = true

/-! ### What a request does -/

variable {svc}

theorem serve_found {s : State Q K E R V W} {q : Q} {v : V} (h : svc.found s q = some v) :
    svc.serve s q = (.ok (svc.reply v),
      { s with history := s.history ++ [⟨q, .ok (svc.reply v), [], s.world, s.world⟩] }) := by
  simp only [serve, h]

theorem serve_missed {s : State Q K E R V W} {q : Q} (h : svc.found s q = none) :
    ∃ answer w ran records, svc.run q s.world = (answer, w, ran) ∧
      svc.serve s q =
        (answer, ⟨w, records, s.history ++ [⟨q, answer, ran, s.world, w⟩]⟩) ∧
      (∀ k, svc.lookup q ≠ some k → records.get? k = s.records.get? k) ∧
      ∀ k r, svc.lookup q = some k → answer = .ok r →
        ∃ v, records.get? k = some v ∧ svc.reply v = r := by
  obtain ⟨answer, w, ran, hrun⟩ : ∃ answer w ran, svc.run q s.world = (answer, w, ran) :=
    ⟨_, _, _, rfl⟩
  cases answer with
  | error e =>
    refine ⟨.error e, w, ran, s.records, hrun, by simp only [serve, h, hrun], fun _ _ => rfl, ?_⟩
    intro k r hk hr
    cases hr
  | ok r =>
    refine ⟨.ok r, w, ran, svc.remember s.records q r, hrun, by simp only [serve, h, hrun], ?_, ?_⟩
    · intro k hk
      cases hq : svc.lookup q with
      | none => rw [remember, hq]
      | some k' =>
        have hne : k' ≠ k := fun he => hk (by rw [hq, he])
        rw [found, hq, Option.bind_some] at h
        simp only [remember, hq, put, h]
        exact Dict.get?_set_ne _ _ hne
    · intro k r' hk hr
      cases hr
      rw [found, hk, Option.bind_some] at h
      refine ⟨svc.record k q r, ?_, svc.reply_record k q r⟩
      simp only [remember, hk, put, h, Dict.get?_set_self]

/-! ### Runs -/

variable (svc) in
/-- The answers of the requests that came to one are recorded under their key. -/
structure Kept (s : State Q K E R V W) : Prop where
  atMostOnce : svc.AtMostOnce s.history
  ran_parts : ∀ t ∈ s.history, t.ran.Sublist (svc.parts t.request)
  answers : ∀ t ∈ s.history, t.answer.isOk = true ∨ t.answer = (svc.run t.request t.before).1
  recorded : ∀ t ∈ s.history, ∀ k r, svc.lookup t.request = some k → t.answer = .ok r →
    ∃ v, s.records.get? k = some v ∧ svc.reply v = r

omit [DecidableEq K] in
/-- The first of the earlier requests with a key of this one. -/
theorem exists_first {history : List (Turn Q K E R W)} {q : Q} {t : Turn Q K E R W}
    (ht : t ∈ history) (hshare : svc.Shares t.request q) :
    ∃ pre first post, history = pre ++ first :: post ∧ svc.Shares first.request q ∧
      ∀ u ∈ pre, ¬svc.Shares u.request q := by
  classical
  obtain ⟨first, hfirst⟩ := Option.isSome_iff_exists.mp <|
    (List.find?_isSome (p := fun u => decide (svc.Shares u.request q))).mpr
      ⟨t, ht, decide_eq_true hshare⟩
  obtain ⟨hf, pre, post, hsplit, hpre⟩ := List.find?_eq_some_iff_append.mp hfirst
  exact ⟨pre, first, post, hsplit, of_decide_eq_true hf, fun u hu => by simpa using hpre u hu⟩

/-- It has left a record, which this one finds. -/
theorem Kept.found_of_first {s : State Q K E R V W} {q : Q} {first : Turn Q K E R W}
    {pre post : List (Turn Q K E R W)} (h : svc.Kept s) (hq : svc.Told s q)
    (hsplit : s.history = pre ++ first :: post) (hshare : svc.Shares first.request q)
    (hpre : ∀ u ∈ pre, ¬svc.Shares u.request q) :
    ∃ v, svc.found s q = some v ∧ first.answer = .ok (svc.reply v) := by
  have hmem : first ∈ s.history := hsplit ▸ List.mem_append_right _ List.mem_cons_self
  obtain ⟨k, hk, hkq⟩ := hq.lookup first hmem hshare
  have hok : first.answer.isOk = true := by
    rcases h.answers first hmem with hok | heq
    · exact hok
    · rw [heq]
      exact hq.answered pre first post hsplit hshare hpre
  cases hanswer : first.answer with
  | error e =>
    rw [hanswer] at hok
    cases hok
  | ok r =>
    obtain ⟨v, hv, rfl⟩ := h.recorded first hmem k r hk hanswer
    exact ⟨v, by rw [found, hkq, Option.bind_some, hv], rfl⟩

/-- The others with a key of this one are replays of the first. -/
theorem Kept.found_of_shares {s : State Q K E R V W} {q : Q} {t : Turn Q K E R W} (h : svc.Kept s)
    (hq : svc.Told s q) (ht : t ∈ s.history) (hshare : svc.Shares t.request q) :
    ∃ v, svc.found s q = some v ∧ t.answer = .ok (svc.reply v) := by
  obtain ⟨pre, first, post, hsplit, hfirst, hpre⟩ := exists_first ht hshare
  obtain ⟨v, hv, hanswer⟩ := h.found_of_first hq hsplit hfirst hpre
  refine ⟨v, hv, ?_⟩
  obtain ⟨k, hk, hkq⟩ := hq.lookup t ht hshare
  rw [hsplit] at ht
  rcases List.mem_append.mp ht with ht | ht
  · exact absurd hshare (hpre t ht)
  rcases List.mem_cons.mp ht with rfl | hpost
  · exact hanswer
  obtain ⟨k', hk', hkq'⟩ :=
    hq.lookup first (hsplit ▸ List.mem_append_right _ List.mem_cons_self) hfirst
  obtain rfl := Option.some.inj (hkq.symm.trans hkq')
  have hreplays := h.atMostOnce.replays
  rw [hsplit, List.pairwise_append, List.pairwise_cons] at hreplays
  obtain ⟨r, hr, hr', -⟩ := hreplays.2.1.1 t hpost (shares_of_lookup hk' hk)
  rw [hanswer] at hr
  exact hr'.trans hr.symm

/-- **One request.** -/
theorem Kept.step {s : State Q K E R V W} {q : Q} (h : svc.Kept s) (hq : svc.Told s q) :
    svc.Kept (svc.serve s q).2 := by
  cases hf : svc.found s q with
  | some v =>
    obtain ⟨k, hk, hv⟩ := Option.bind_eq_some_iff.mp hf
    rw [serve_found hf]
    refine ⟨h.atMostOnce.snoc List.nodup_nil (fun _ _ _ _ => List.not_mem_nil) ?_, ?_, ?_, ?_⟩
    · intro t ht hshare
      obtain ⟨v', hv', hanswer⟩ := h.found_of_shares hq ht hshare
      obtain rfl := Option.some.inj (hf.symm.trans hv')
      exact ⟨svc.reply v, hanswer, rfl, rfl, rfl⟩
    · intro t ht
      rcases List.mem_append.mp ht with ht | ht
      · exact h.ran_parts t ht
      · rw [List.mem_singleton.mp ht]
        exact List.nil_sublist _
    · intro t ht
      rcases List.mem_append.mp ht with ht | ht
      · exact h.answers t ht
      · rw [List.mem_singleton.mp ht]
        exact .inl rfl
    · intro t ht k' r hk' hr
      rcases List.mem_append.mp ht with ht | ht
      · exact h.recorded t ht k' r hk' hr
      · rw [List.mem_singleton.mp ht] at hk' hr
        cases hr
        obtain rfl := Option.some.inj (hk.symm.trans hk')
        exact ⟨v, hv, rfl⟩
  | none =>
    have hfresh : ∀ t ∈ s.history, ¬svc.Shares t.request q := by
      intro t ht hshare
      obtain ⟨v, hv, -⟩ := h.found_of_shares hq ht hshare
      rw [hf] at hv
      cases hv
    obtain ⟨answer, w, ran, records, hrun, hserve, hother, hown⟩ := serve_missed hf
    have hsub : ran.Sublist (svc.parts q) := by
      have := svc.run_parts q s.world
      rwa [hrun] at this
    rw [hserve]
    refine ⟨h.atMostOnce.snoc (hq.parts.sublist hsub) ?_ ?_, ?_, ?_, ?_⟩
    · intro t ht k hk hk'
      refine hfresh t ht ⟨k, ?_, ?_⟩
      · exact svc.parts_subset _ ((h.ran_parts t ht).subset hk)
      · exact svc.parts_subset _ (hsub.subset hk')
    · intro t ht hshare
      exact absurd hshare (hfresh t ht)
    · intro t ht
      rcases List.mem_append.mp ht with ht | ht
      · exact h.ran_parts t ht
      · rw [List.mem_singleton.mp ht]
        exact hsub
    · intro t ht
      rcases List.mem_append.mp ht with ht | ht
      · exact h.answers t ht
      · rw [List.mem_singleton.mp ht]
        exact .inr (congrArg Prod.fst hrun).symm
    · intro t ht k r hk hr
      rcases List.mem_append.mp ht with ht | ht
      · -- no earlier request was looked up under this key
        have hne : svc.lookup q ≠ some k := fun hq => hfresh t ht (shares_of_lookup hk hq)
        rw [hother k hne]
        exact h.recorded t ht k r hk hr
      · rw [List.mem_singleton.mp ht] at hk hr
        exact hown k r hk hr

theorem kept_start (world : W) : svc.Kept { world := world } :=
  ⟨⟨List.nodup_nil, List.Pairwise.nil⟩, fun _ ht => absurd ht List.not_mem_nil,
    fun _ ht => absurd ht List.not_mem_nil, fun _ ht => absurd ht List.not_mem_nil⟩

/-- **Every run of requests that the service can tell apart.** -/
theorem atMostOnce_final (world : W) (qs : List Q)
    (h : Throughout svc.serve svc.Told { world := world } qs) :
    svc.AtMostOnce (final svc.serve { world := world } qs).history := by
  refine (?_ : svc.Kept _).atMostOnce
  have hrun : ∀ (qs : List Q) (s : State Q K E R V W), svc.Kept s →
      Throughout svc.serve svc.Told s qs → svc.Kept (final svc.serve s qs) := by
    intro qs
    induction qs with
    | nil => intro s hs _; exact hs
    | cons q qs ih => intro s hs hq; exact ih _ (hs.step hq.1) hq.2
  exact hrun qs _ (kept_start world) h

end Keyed

end Lib
