import Taskweavn.Lib.Lines

/-!
# Event streams

A stream of server-sent events is cut into lines at line feeds, at carriage returns and at the two
together.  The lines up to an empty one are a frame.  A line is a field: its name stands before the
first colon, its value behind it, without a blank at its front.

* `decode_render`: frames whose values are lines are decoded as they were written.
* `decode_oneLine`: the id of a frame that was decoded is a line, whatever the text.
-/

namespace Lib

namespace EventStream

theorem return_ne_feed : '\r' ≠ '\n' := by decide

def lineEnds : LineEnds Char where
  isEnd c := c = '\n' || c = '\r'
  cr := '\r'
  lf := '\n'
  cr_ne_lf := return_ne_feed
  isEnd_cr := by decide
  isEnd_lf := by decide

def OneLine (text : List Char) : Prop := ∀ c ∈ text, lineEnds.isEnd c = false

instance (text : List Char) : Decidable (OneLine text) :=
  List.decidableBAll (fun c => lineEnds.isEnd c = false) text

theorem OneLine.append {t t' : List Char} (h : OneLine t) (h' : OneLine t') :
    OneLine (t ++ t') := by
  intro c hc
  rcases List.mem_append.mp hc with hc | hc
  · exact h c hc
  · exact h' c hc

theorem OneLine.cons {c : Char} {t : List Char} (hc : lineEnds.isEnd c = false) (h : OneLine t) :
    OneLine (c :: t) := by
  intro d hd
  rcases List.mem_cons.mp hd with rfl | hd
  · exact hc
  · exact h d hd

theorem OneLine.flatMap {α : Type*} {l : List α} {f : α → List Char} (h : ∀ a ∈ l, OneLine (f a)) :
    OneLine (l.flatMap f) := by
  intro c hc
  obtain ⟨a, ha, hca⟩ := List.mem_flatMap.mp hc
  exact h a ha c hca

/-! ### Frames -/

/-- The lines up to each empty one, behind those that were read already. -/
def blocks : (read lines : List (List Char)) → List (List (List Char))
  | _, [] => []
  | read, line :: lines =>
    if line ≠ [] then blocks (read ++ [line]) lines
    else if read = [] then blocks [] lines
    else read :: blocks [] lines

/-- The name and the value of a field. -/
def fieldOf (line : List Char) : List Char × List Char :=
  (line.takeWhile (· ≠ ':'),
    match line.dropWhile (· ≠ ':') with
    | _ :: ' ' :: value => value
    | _ :: value => value
    | [] => [])

structure Frame where
  id : Option (List Char)
  event : Option (List Char)
  data : Option (List Char)
deriving DecidableEq

/-- The values of a field, in their order. -/
def valuesOf (name : String) (block : List (List Char)) : List (List Char) :=
  (block.map fieldOf).filterMap fun field => if field.1 = name.toList then some field.2 else none

/-- The frame of some lines: the last id, the last event, and all the data. -/
def frameOf (block : List (List Char)) : Frame where
  id := (valuesOf "id" block).getLast?
  event := (valuesOf "event" block).getLast?
  data := if valuesOf "data" block = [] then none
    else some (['\n'].intercalate (valuesOf "data" block))

def decode (text : List Char) : List Frame :=
  (blocks [] ((lineEnds.lines text).map Line.text)).map frameOf

/-! ### Writing and reading -/

/-- The lines of a frame with three fields, and the empty one. -/
def frameLines (id event data : List Char) : List (List Char) :=
  ["id: ".toList ++ id, "event: ".toList ++ event, "data: ".toList ++ data, []]

/-- Some lines, each with a line feed. -/
def render (lines : List (List Char)) : List Char := lines.flatMap fun line => line ++ ['\n']

theorem lines_render {lines : List (List Char)} (h : ∀ line ∈ lines, OneLine line) :
    (lineEnds.lines (render lines)).map Line.text = lines := by
  have hended : render lines = Line.render (Line.endedWith ['\n'] ['\n'] lines) := by
    rw [Line.endedWith_self, render, Line.render, List.flatMap_map]
  have hreads : lineEnds.Reads (Line.endedWith ['\n'] ['\n'] lines) :=
    LineEnds.reads_endedWith (.inr (.inl rfl)) (.inl rfl) h fun hnil => (by cases hnil)
  rw [hended, LineEnds.lines_render hreads, Line.map_text_endedWith]

theorem blocks_frameLines (id event data : List Char) (lines : List (List Char)) :
    blocks [] (frameLines id event data ++ lines) =
      ["id: ".toList ++ id, "event: ".toList ++ event, "data: ".toList ++ data] ::
        blocks [] lines := by
  simp [frameLines, blocks]

theorem frameOf_fields (id event data : List Char) :
    frameOf ["id: ".toList ++ id, "event: ".toList ++ event, "data: ".toList ++ data] =
      ⟨some id, some event, some data⟩ := by
  simp [frameOf, valuesOf, fieldOf]

/-- **Frames whose values are lines are decoded.** -/
theorem decode_render {α : Type*} {id event data : α → List Char} {l : List α}
    (h : ∀ a ∈ l, OneLine (id a) ∧ OneLine (event a) ∧ OneLine (data a)) :
    decode (render (l.flatMap fun a => frameLines (id a) (event a) (data a))) =
      l.map fun a => ⟨some (id a), some (event a), some (data a)⟩ := by
  have hlines : ∀ line ∈ l.flatMap fun a => frameLines (id a) (event a) (data a), OneLine line := by
    intro line hline
    obtain ⟨a, ha, hline⟩ := List.mem_flatMap.mp hline
    obtain ⟨hid, hevent, hdata⟩ := h a ha
    simp only [frameLines, List.mem_cons, List.not_mem_nil, or_false] at hline
    rcases hline with rfl | rfl | rfl | rfl
    · exact OneLine.append (by decide) hid
    · exact OneLine.append (by decide) hevent
    · exact OneLine.append (by decide) hdata
    · exact fun c hc => (by cases hc)
  rw [decode, lines_render hlines]
  clear hlines h
  induction l with
  | nil => rfl
  | cons a l ih =>
    rw [List.flatMap_cons, blocks_frameLines, List.map_cons, frameOf_fields, ih, List.map_cons]

/-! ### What is decoded -/

theorem mem_of_mem_blocks : ∀ {lines read : List (List Char)} {block : List (List Char)},
    block ∈ blocks read lines → ∀ line ∈ block, line ∈ read ∨ line ∈ lines := by
  intro lines
  induction lines with
  | nil => intro read block h; cases h
  | cons line lines ih =>
    intro read block h l hl
    rw [blocks] at h
    split_ifs at h with hne hread
    · rcases ih h l hl with hm | hm
      · rcases List.mem_append.mp hm with hm | hm
        · exact .inl hm
        · exact .inr (List.mem_cons.mpr (.inl (List.mem_singleton.mp hm)))
      · exact .inr (List.mem_cons_of_mem _ hm)
    · rcases ih h l hl with hm | hm
      · cases hm
      · exact .inr (List.mem_cons_of_mem _ hm)
    · rcases List.mem_cons.mp h with rfl | h
      · exact .inl hl
      · rcases ih h l hl with hm | hm
        · cases hm
        · exact .inr (List.mem_cons_of_mem _ hm)

theorem mem_value {line : List Char} {c : Char} (h : c ∈ (fieldOf line).2) : c ∈ line := by
  have hsuffix := List.dropWhile_suffix (l := line) (fun c => decide (c ≠ ':'))
  refine hsuffix.subset ?_
  rw [fieldOf] at h
  dsimp only at h
  split at h
  · next hd =>
    rw [hd]
    exact List.mem_cons_of_mem _ (List.mem_cons_of_mem _ h)
  · next hd =>
    rw [hd]
    exact List.mem_cons_of_mem _ h
  · cases h

/-- **The id of a decoded frame is a line.** -/
theorem decode_oneLine {text : List Char} {frame : Frame} (h : frame ∈ decode text) {id : List Char}
    (hid : frame.id = some id) : OneLine id := by
  obtain ⟨block, hblock, rfl⟩ := List.mem_map.mp h
  have hvalue : id ∈ valuesOf "id" block := List.mem_of_getLast? hid
  obtain ⟨field, hfield, hname⟩ := List.mem_filterMap.mp hvalue
  obtain ⟨line, hline, rfl⟩ := List.mem_map.mp hfield
  split at hname
  · cases hname
    intro c hc
    rcases mem_of_mem_blocks hblock line hline with hm | hm
    · cases hm
    · obtain ⟨l, hl, rfl⟩ := List.mem_map.mp hm
      exact (LineEnds.reads_lines text).not_isEnd l hl c (mem_value hc)
  · cases hname

end EventStream

end Lib
