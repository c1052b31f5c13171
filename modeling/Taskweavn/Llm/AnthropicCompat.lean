import Taskweavn.Lib.Turns
import Taskweavn.Py.Json
import Taskweavn.Py.Model
import Taskweavn.Py.Text

/-!
# Messages for Claude

`taskweavn/llm/providers/_anthropic_compat.py` turns the history of a loop, in the shape of
OpenAI's messages, into the messages of Anthropic's API, and a response back into such a message.
A message is a dictionary; a block of an answer is one as well, or an object with the same
attributes.  The usage and the metadata of a response are left out.

Only the letters of ASCII occur in the names of the roles, and no other letter becomes one of
those that occur in them, so `str.lower` goes letter by letter here.

`converts_and_returns` says what **a conversion keeps of the tool protocol**.
-/

namespace Taskweavn.Llm

open Lib Py

/-- A message, or another dictionary, by its items. -/
abbrev Message := List (String × PyValue)

/-- The roles of Anthropic's messages. -/
inductive Speaker
  | user
  | assistant
deriving DecidableEq, Repr

def Speaker.value : Speaker → String
  | .user => "user"
  | .assistant => "assistant"

/-- A call of a tool: a `tool_use` block without its type. -/
structure ToolUse where
  id : String
  name : String
  input : Message
deriving DecidableEq

/-- A block of a converted message. -/
inductive Block
  | text (text : String)
  | toolUse (call : ToolUse)
  | toolResult (toolUseId content : String)
deriving DecidableEq

abbrev AnthropicMessage := SpeakerTurn Speaker Block

/-- The errors of a conversion.  Where the text shows a value, the error holds the value. -/
inductive CompatError
  /-- `AnthropicCompatError` -/
  | compat (message : String)
  | unsupportedRole (role : String)
  | emptyMessage (role : String)
  /-- `AnthropicUnsupportedContentError` -/
  | unsupportedContent (content : PyValue)
  | unsupportedBlock (block : PyValue)
  /-- `json.dumps` has failed. -/
  | notSerializable (value : PyValue)
deriving DecidableEq

/-! ### From OpenAI's messages -/

def partText : PyValue → Except CompatError String
  | .str s => .ok s
  | .dict items =>
    if lookupEntries "type" items = some (.str "text") then
      match lookupEntries "text" items with
      | some (.str text) => .ok text
      | _ => .error (.compat "Claude text content block requires text")
    else .error (.unsupportedBlock (.dict items))
  | block => .error (.unsupportedBlock block)

def partTexts : List PyValue → Except CompatError String
  | [] => .ok ""
  | part :: parts => do return (← partText part) ++ (← partTexts parts)

def contentText : Option PyValue → Except CompatError String
  | none => .ok ""
  | some .none => .ok ""
  | some (.str s) => .ok s
  | some (.list parts) => partTexts parts
  | some content => .error (.unsupportedContent content)

def requiredStr (value : Option PyValue) (fieldName : String) : Except CompatError String :=
  match value with
  | some (.str s) =>
    if isBlank s then .error (.compat ("Claude " ++ fieldName ++ " must not be empty"))
    else .ok (strip s)
  | _ => .error (.compat ("Claude " ++ fieldName ++ " must not be empty"))

-- `str` writes a value that is no string.
variable (floats : JsonFloats) (str : PyValue → String)

/-- `str(message.get(key, ""))` -/
def textField (key : String) (message : Message) : String :=
  match lookupEntries key message with
  | none => ""
  | some (.str s) => s
  | some v => str v

def roleOf (message : Message) : String :=
  String.ofList ((strip (textField str "role" message)).toList.map Char.toLower)

/-- The arguments of a call, from what stands for them. -/
def parsedArguments : PyValue → Except CompatError PyValue
  | .str arguments =>
    match loads floats arguments with
    | some v => .ok v
    | none => .error (.compat "Claude assistant tool call arguments must be valid JSON")
  | arguments => .ok arguments

def toAnthropicToolUse : PyValue → Except CompatError ToolUse
  | .dict call =>
    match lookupEntries "function" call with
    | some (.dict function) => do
      let id ← requiredStr (lookupEntries "id" call) "assistant tool call id"
      let name ← requiredStr (lookupEntries "name" function) "assistant tool call function name"
      let arguments := (lookupEntries "arguments" function).getD (.str "\x7b\x7d")
      match ← parsedArguments floats arguments with
      | .dict input => return { id := id, name := name, input := input }
      | _ => .error (.compat "Claude assistant tool call arguments must decode to an object")
    | _ => .error (.compat "Claude assistant tool call requires function details")
  | _ => .error (.compat "Claude assistant tool calls must be objects")

def toolUseBlocks : List PyValue → Except CompatError (List Block)
  | [] => .ok []
  | toolCall :: toolCalls => do
    return .toolUse (← toAnthropicToolUse floats toolCall) :: (← toolUseBlocks toolCalls)

/-- `raw_tool_calls or ()` -/
def rawToolCalls : Option PyValue → Except CompatError (List PyValue)
  | none => .ok []
  | some .none => .ok []
  | some (.list toolCalls) => .ok toolCalls
  | some _ => .error (.compat "assistant tool_calls must be a list")

/-- What becomes of one message: a part of the system text, or blocks. -/
inductive Converted
  | system (text : String)
  | blocks (message : AnthropicMessage)

/-- The blocks of a message of the user or the assistant, with its calls behind its text. -/
def spokenBlocks (speaker : Speaker) (message : Message) (calls : List Block) :
    Except CompatError Converted := do
  let text ← contentText (lookupEntries "content" message)
  let blocks := (if text = "" then [] else [.text text]) ++ calls
  if blocks = [] then .error (.emptyMessage speaker.value)
  else return .blocks { role := speaker, blocks := blocks }

/-- The body of the loop of `to_anthropic_messages`.  What is wrong with the content of an
assistant's message is found before what is wrong with its calls. -/
def convertMessage (message : Message) : Except CompatError Converted :=
  let role := roleOf str message
  if role = "system" ∨ role = "developer" then do
    return .system (← contentText (lookupEntries "content" message))
  else if role = "tool" then
    let toolCallId := strip (textField str "tool_call_id" message)
    if toolCallId = "" then .error (.compat "tool result message requires tool_call_id")
    else do
      let text ← contentText (lookupEntries "content" message)
      return .blocks { role := .user, blocks := [.toolResult toolCallId text] }
  else if role = "user" then spokenBlocks .user message []
  else if role = "assistant" then do
    let _ ← contentText (lookupEntries "content" message)
    let toolCalls ← rawToolCalls (lookupEntries "tool_calls" message)
    spokenBlocks .assistant message (← toolUseBlocks floats toolCalls)
  else .error (.unsupportedRole role)

def ConvertsTo (message : Message) (converted : Converted) : Prop :=
  convertMessage floats str message = .ok converted

/-- `"\n\n".join(system_parts) or None` -/
def joinSystem (systemParts : List String) : Option String :=
  let text := "\n\n".intercalate systemParts
  if text = "" then none else some text

/-- `to_anthropic_messages`, from some system texts and converted messages on. -/
def convertFrom : List String → List AnthropicMessage → List Message →
    Except CompatError (Option String × List AnthropicMessage)
  | systemParts, converted, [] => .ok (joinSystem systemParts, converted)
  | systemParts, converted, message :: messages => do
    match ← convertMessage floats str message with
    | .system text =>
      convertFrom (if text = "" then systemParts else systemParts ++ [text]) converted messages
    | .blocks message => convertFrom systemParts (addTurn converted message) messages

/-- Convert OpenAI-shaped loop history into Anthropic messages. -/
def toAnthropicMessages (messages : List Message) :
    Except CompatError (Option String × List AnthropicMessage) :=
  convertFrom floats str [] [] messages

/-! ### From a response -/

def field (name : String) : PyValue → Option PyValue
  | .dict items => lookupEntries name items
  | _ => none

/-- One tool invocation requested by the assistant. -/
structure ToolCall where
  id : String
  name : String
  arguments : String
deriving DecidableEq, Repr

/-- The parsed response, without its usage and its metadata. -/
structure ParsedResponse where
  content : String
  toolCalls : List ToolCall
  rawAssistantMessage : Message

/-- `tuple(raw_content)` -/
def responseBlocks : Option PyValue → Except CompatError (List PyValue)
  | none => .ok []
  | some .none => .ok []
  | some (.list blocks) => .ok blocks
  | some (.tuple blocks) => .ok blocks
  | some (.dict items) => .ok (items.map fun item => .str item.1)
  | some (.str s) => .ok (s.toList.map fun c => .str (String.singleton c))
  | some _ => .error (.compat "Claude response content must be iterable")

/-- What a block adds: some text, or a call. -/
def parseBlock (block : PyValue) : Except CompatError (String ⊕ ToolCall) :=
  match field "type" block with
  | some (.str "text") =>
    match field "text" block with
    | some (.str text) => .ok (.inl text)
    | _ => .error (.compat "Claude text response block requires text")
  | some (.str "tool_use") => do
    let id ← requiredStr (field "id" block) "tool_use id"
    let name ← requiredStr (field "name" block) "tool_use name"
    match field "input" block with
    | some (.dict items) =>
      match dumps floats (.dict items) with
      | some arguments => return .inr { id := id, name := name, arguments := arguments }
      | none => .error (.notSerializable (.dict items))
    | _ => .error (.compat "Claude tool_use input must be an object")
  | _ => .error (.unsupportedBlock block)

def parseBlocks : List PyValue → Except CompatError (String × List ToolCall)
  | [] => .ok ("", [])
  | block :: blocks => do
    match ← parseBlock floats block with
    | .inl text => do
      let (content, toolCalls) ← parseBlocks blocks
      return (text ++ content, toolCalls)
    | .inr toolCall => do
      let (content, toolCalls) ← parseBlocks blocks
      return (content, toolCall :: toolCalls)

/-- A call in the shape of OpenAI's messages. -/
def ToolCall.toMessage (toolCall : ToolCall) : PyValue :=
  .dict [("id", .str toolCall.id), ("type", .str "function"),
    ("function", .dict [("name", .str toolCall.name), ("arguments", .str toolCall.arguments)])]

/-- Normalize one Anthropic response into the shared chat contract. -/
def parseAnthropicResponse (response : PyValue) : Except CompatError ParsedResponse := do
  let blocks ← responseBlocks (field "content" response)
  let (content, toolCalls) ← parseBlocks floats blocks
  if blocks = [] then .error (.compat "Claude response content must not be empty")
  else return {
    content := content
    toolCalls := toolCalls
    rawAssistantMessage :=
      [("role", .str "assistant"), ("content", .str content)] ++
        if toolCalls = [] then [] else [("tool_calls", .list (toolCalls.map ToolCall.toMessage))] }

/-! ### Histories that keep the tool protocol -/

/-- A part of a content that is a text. -/
inductive IsPart : PyValue → String → Prop
  | str (s : String) : IsPart (.str s) s
  | text {items : Message} {text : String} (htype : lookupEntries "type" items = some (.str "text"))
      (htext : lookupEntries "text" items = some (.str text)) : IsPart (.dict items) text

/-- A content that says a text. -/
inductive Says : Option PyValue → String → Prop
  | absent : Says none ""
  | null : Says (some .none) ""
  | str (s : String) : Says (some (.str s)) s
  | parts {parts : List PyValue} {texts : List String} (h : List.Forall₂ IsPart parts texts) :
      Says (some (.list parts)) (String.join texts)

/-- Arguments that are a JSON object, as a text or as it is. -/
inductive IsObject : Option PyValue → Message → Prop
  | absent : IsObject none []
  | text {arguments : String} {input : Message} (h : loads floats arguments = some (.dict input)) :
      IsObject (some (.str arguments)) input
  | object (input : Message) : IsObject (some (.dict input)) input

/-- A call of a function in OpenAI's shape, with an id and a name that are not blank. -/
inductive IsCall : PyValue → ToolUse → Prop
  | mk {items function input : Message} {id name : String}
      (hid : lookupEntries "id" items = some (.str id)) (hidText : isBlank id = false)
      (hfunction : lookupEntries "function" items = some (.dict function))
      (hname : lookupEntries "name" function = some (.str name)) (hnameText : isBlank name = false)
      (harguments : IsObject floats (lookupEntries "arguments" function) input) :
      IsCall (.dict items) { id := strip id, name := strip name, input := input }

/-- The calls that an assistant's message holds. -/
inductive HasCalls : Option PyValue → List ToolUse → Prop
  | absent : HasCalls none []
  | null : HasCalls (some .none) []
  | list {values : List PyValue} {calls : List ToolUse}
      (h : List.Forall₂ (IsCall floats) values calls) : HasCalls (some (.list values)) calls

structure IsResult (call : ToolUse) (result : Message × String) : Prop where
  role : roleOf str result.1 = "tool"
  id : ∃ id, lookupEntries "tool_call_id" result.1 = some (.str id) ∧ strip id = call.id
  content : Says (lookupEntries "content" result.1) result.2

def textBlocks (text : String) : List Block := if text = "" then [] else [.text text]

def resultBlock (call : ToolUse) (result : Message × String) : Block :=
  .toolResult call.id result.2

/-- An OpenAI-shaped history in which every call has its result right behind it and there is no
other tool message, with the system texts and with what is said in it. -/
inductive History : List Message → List String → List (Speaker × Block) → Prop
  | nil : History [] [] []
  | system {message : Message} {messages : List Message} {text : String} {texts : List String}
      {said : List (Speaker × Block)}
      (hrole : roleOf str message = "system" ∨ roleOf str message = "developer")
      (hcontent : Says (lookupEntries "content" message) text) (h : History messages texts said) :
      History (message :: messages) (if text = "" then texts else text :: texts) said
  | user {message : Message} {messages : List Message} {text : String} {texts : List String}
      {said : List (Speaker × Block)} (hrole : roleOf str message = "user")
      (hcontent : Says (lookupEntries "content" message) text) (htext : text ≠ "")
      (h : History messages texts said) :
      History (message :: messages) texts ((.user, .text text) :: said)
  | assistant {message : Message} {messages : List Message} {text : String} {texts : List String}
      {calls : List ToolUse} {results : List (Message × String)} {said : List (Speaker × Block)}
      (hrole : roleOf str message = "assistant")
      (hcontent : Says (lookupEntries "content" message) text)
      (hcalls : HasCalls floats (lookupEntries "tool_calls" message) calls)
      (hspoken : text ≠ "" ∨ calls ≠ []) (hresults : List.Forall₂ (IsResult str) calls results)
      (h : History messages texts said) :
      History (message :: (results.map Prod.fst ++ messages)) texts
        ((textBlocks text ++ calls.map Block.toolUse).map (Prod.mk .assistant) ++
          (List.zipWith resultBlock calls results).map (Prod.mk .user) ++ said)

variable {floats str} {text : String} {calls : List ToolUse} {results : List (Message × String)}

/-! ### Every message of a history is converted -/

theorem partText_of_isPart {part : PyValue} (h : IsPart part text) : partText part = .ok text := by
  cases h with
  | str s => rfl
  | text htype htext =>
    rw [partText, if_pos htype, htext]

theorem partTexts_of_forall₂ {parts : List PyValue} {texts : List String}
    (h : List.Forall₂ IsPart parts texts) : partTexts parts = .ok (String.join texts) := by
  induction h with
  | nil => rfl
  | cons hpart _ ih =>
    rw [partTexts, partText_of_isPart hpart, ih]
    simp [bind, Except.bind, pure, Except.pure]

theorem contentText_of_says {content : Option PyValue} (h : Says content text) :
    contentText content = .ok text := by
  cases h with
  | absent => rfl
  | null => rfl
  | str s => rfl
  | parts h => exact partTexts_of_forall₂ h

theorem requiredStr_of_not_isBlank {s : String} (h : isBlank s = false) (fieldName : String) :
    requiredStr (some (.str s)) fieldName = .ok (strip s) := by
  rw [requiredStr, if_neg (by simp [h])]

theorem toAnthropicToolUse_of_isCall {toolCall : PyValue} {call : ToolUse}
    (h : IsCall floats toolCall call) : toAnthropicToolUse floats toolCall = .ok call := by
  obtain ⟨hid, hidText, hfunction, hname, hnameText, harguments⟩ := h
  rw [toAnthropicToolUse, hfunction]
  simp only [hid, hname, requiredStr_of_not_isBlank hidText, requiredStr_of_not_isBlank hnameText]
  generalize lookupEntries "arguments" _ = arguments at harguments
  cases harguments with
  | absent =>
    have hempty : loads floats "\x7b\x7d" = some (.dict []) :=
      loads_dumps floats (v := .dict []) rfl ⟨List.nodup_nil, trivial⟩
    simp [parsedArguments, hempty, bind, Except.bind, pure, Except.pure]
  | text h =>
    simp [parsedArguments, h, bind, Except.bind, pure, Except.pure]
  | object input => rfl

theorem toolUseBlocks_of_forall₂ {values : List PyValue}
    (h : List.Forall₂ (IsCall floats) values calls) :
    toolUseBlocks floats values = .ok (calls.map .toolUse) := by
  induction h with
  | nil => rfl
  | cons hcall _ ih =>
    rw [toolUseBlocks, toAnthropicToolUse_of_isCall hcall, ih]
    rfl

theorem toolUseBlocks_of_hasCalls {value : Option PyValue} (h : HasCalls floats value calls) :
    (rawToolCalls value).bind (toolUseBlocks floats) = .ok (calls.map .toolUse) := by
  cases h with
  | absent => rfl
  | null => rfl
  | list h => exact toolUseBlocks_of_forall₂ h

theorem convertMessage_system {message : Message}
    (hrole : roleOf str message = "system" ∨ roleOf str message = "developer")
    (hcontent : Says (lookupEntries "content" message) text) :
    convertMessage floats str message = .ok (.system text) := by
  rw [convertMessage]
  simp only
  rw [if_pos hrole, contentText_of_says hcontent]
  rfl

theorem convertMessage_user {message : Message} (hrole : roleOf str message = "user")
    (hcontent : Says (lookupEntries "content" message) text) (htext : text ≠ "") :
    convertMessage floats str message =
    .ok (.blocks { role := .user, blocks := [.text text] }) := by
  rw [convertMessage]
  simp only
  rw [hrole, if_neg (by decide), if_neg (by decide), if_pos rfl, spokenBlocks,
    contentText_of_says hcontent]
  simp [bind, Except.bind, pure, Except.pure, htext]

theorem convertMessage_assistant {message : Message} {text : String} {calls : List ToolUse}
    (hrole : roleOf str message = "assistant")
    (hcontent : Says (lookupEntries "content" message) text)
    (hcalls : HasCalls floats (lookupEntries "tool_calls" message) calls)
    (hspoken : text ≠ "" ∨ calls ≠ []) :
    convertMessage floats str message = .ok (.blocks
      { role := .assistant, blocks := textBlocks text ++ calls.map .toolUse }) := by
  have hblocks : textBlocks text ++ calls.map Block.toolUse ≠ [] := by
    rw [textBlocks]
    rcases hspoken with h | h
    · simp [h]
    · simp [h]
  have hcalls := toolUseBlocks_of_hasCalls hcalls
  rw [convertMessage]
  simp only
  rw [hrole, if_neg (by decide), if_neg (by decide), if_neg (by decide), if_pos rfl,
    contentText_of_says hcontent]
  cases hraw : rawToolCalls (lookupEntries "tool_calls" message) with
  | error e =>
    rw [hraw] at hcalls
    cases hcalls
  | ok toolCalls =>
    rw [hraw] at hcalls
    have hcalls : toolUseBlocks floats toolCalls = .ok (calls.map .toolUse) := hcalls
    simp only [bind, Except.bind, hcalls, spokenBlocks, contentText_of_says hcontent]
    rw [textBlocks] at hblocks
    rw [if_neg hblocks]
    rfl

theorem convertMessage_result {call : ToolUse} {result : Message × String}
    (h : IsResult str call result) (hid : call.id ≠ "") :
    convertMessage floats str result.1 =
      .ok (.blocks { role := .user, blocks := [resultBlock call result] }) := by
  obtain ⟨id, hlookup, hstrip⟩ := h.id
  rw [convertMessage]
  simp only
  rw [h.role, if_neg (by decide), if_pos rfl, textField, hlookup]
  simp only
  rw [hstrip, if_neg hid, contentText_of_says h.content]
  rfl

/-! ### The converted messages -/

def Converted.systemText : Converted → Option String
  | .system text => if text = "" then none else some text
  | .blocks _ => none

def Converted.message : Converted → Option AnthropicMessage
  | .system _ => none
  | .blocks message => some message

theorem convertFrom_of_forall₂ {messages : List Message} {converted : List Converted}
    (h : List.Forall₂ (ConvertsTo floats str) messages converted)
    (systemParts : List String) (before : List AnthropicMessage) :
    convertFrom floats str systemParts before messages =
      .ok (joinSystem (systemParts ++ converted.filterMap Converted.systemText),
        (converted.filterMap Converted.message).foldl addTurn before) := by
  induction h generalizing systemParts before with
  | nil => rw [convertFrom, List.filterMap_nil, List.append_nil]; rfl
  | @cons m c messages converted hm _ ih =>
    rw [convertFrom, show convertMessage floats str m = .ok c from hm]
    cases c with
    | system text =>
      have ih := ih (if text = "" then systemParts else systemParts ++ [text]) before
      simp only [bind, Except.bind]
      rw [ih, List.filterMap_cons_none (f := Converted.message) rfl]
      by_cases htext : text = ""
      · rw [if_pos htext, List.filterMap_cons_none (by rw [Converted.systemText, if_pos htext])]
      · rw [if_neg htext, List.filterMap_cons_some (by rw [Converted.systemText, if_neg htext]),
          List.append_assoc]
        rfl
    | blocks message =>
      have ih := ih systemParts (addTurn before message)
      simp only [bind, Except.bind]
      rw [ih]
      rfl

def Block.call : Block → Option ToolUse
  | .toolUse call => some call
  | _ => none

def Block.resultId : Block → Option String
  | .toolResult toolUseId _ => some toolUseId
  | _ => none

def toolUses (message : AnthropicMessage) : List ToolUse := message.blocks.filterMap Block.call

/-- The message is of the user and begins with the results of the calls, in their order, and it
holds no other results. -/
def Answers (calls : List ToolUse) (message : AnthropicMessage) : Prop :=
  message.role = .user ∧ ∃ results others, message.blocks = results ++ others ∧
    results.map Block.resultId = calls.map (fun call => some call.id) ∧
    ∀ block ∈ others, block.resultId = none

/-- Every message of the assistant with calls is followed at once by their results. -/
def Served : List AnthropicMessage → Prop
  | [] => True
  | message :: messages =>
    (message.role = .assistant → toolUses message ≠ [] →
      ∃ next ∈ messages.head?, Answers (toolUses message) next) ∧ Served messages

/-- Nothing in the blocks belongs to a call. -/
def Plain (blocks : List Block) : Prop :=
  ∀ block ∈ blocks, block.call = none ∧ block.resultId = none

/-- A conversation into which no result is continued. -/
def Fresh (messages : List AnthropicMessage) : Prop :=
  ∀ message ∈ messages.head?, message.role = .user → ∀ block ∈ message.blocks, block.resultId = none

theorem filterMap_call_of_plain {blocks : List Block} (h : Plain blocks) :
    blocks.filterMap Block.call = [] := by
  rw [List.filterMap_eq_nil_iff]
  exact fun block hblock => (h block hblock).1

theorem plain_textBlocks (text : String) : Plain (textBlocks text) := by
  intro block hblock
  rw [textBlocks] at hblock
  split at hblock
  · cases hblock
  · rw [List.mem_singleton.mp hblock]
    exact ⟨rfl, rfl⟩

theorem served_consTurn_plain {message : AnthropicMessage} {messages : List AnthropicMessage}
    (hplain : Plain message.blocks) (hserved : Served messages) (hfresh : Fresh messages) :
    Served (consTurn message messages) ∧ Fresh (consTurn message messages) := by
  have hcalls : toolUses message = [] := filterMap_call_of_plain hplain
  have hhead : ∀ (rest : List AnthropicMessage), Fresh (message :: rest) := by
    rintro rest m hm - block hblock
    obtain rfl := Option.some.inj hm
    exact (hplain block hblock).2
  cases messages with
  | nil => exact ⟨⟨fun _ h => absurd hcalls h, trivial⟩, hhead []⟩
  | cons next rest =>
    rw [consTurn]
    split
    · rename_i hrole
      have huses : toolUses { role := message.role, blocks := message.blocks ++ next.blocks } =
          toolUses next := by
        rw [toolUses, List.filterMap_append, filterMap_call_of_plain hplain]
        rfl
      refine ⟨⟨?_, hserved.2⟩, ?_⟩
      · rw [huses]
        exact fun h => hserved.1 (hrole.trans h)
      · rintro m hm huser block hblock
        obtain rfl := Option.some.inj hm
        rcases List.mem_append.mp hblock with hblock | hblock
        · exact (hplain block hblock).2
        · exact hfresh next rfl (hrole.trans huser) block hblock
    · exact ⟨⟨fun _ h => absurd hcalls h, hserved⟩, hhead _⟩

theorem turns_results {tail : List AnthropicMessage} (hserved : Served (turns tail))
    (hfresh : Fresh (turns tail)) : ∀ {results : List Block}, results ≠ [] →
      ∃ others rest, turns (results.map (fun block => ⟨.user, [block]⟩) ++ tail) =
        ⟨.user, results ++ others⟩ :: rest ∧ (∀ block ∈ others, block.resultId = none) ∧
          Served rest := by
  intro results
  induction results with
  | nil => exact fun h => absurd rfl h
  | cons block results ih =>
    intro _
    rw [List.map_cons, List.cons_append, turns]
    by_cases hnil : results = []
    · subst hnil
      rw [List.map_nil, List.nil_append]
      cases htail : turns tail with
      | nil => exact ⟨[], [], rfl, by simp, trivial⟩
      | cons next rest =>
        rw [htail] at hserved hfresh
        rw [consTurn]
        split
        · rename_i hrole
          exact ⟨next.blocks, rest, rfl, hfresh next rfl hrole, hserved.2⟩
        · exact ⟨[], next :: rest, rfl, by simp, hserved⟩
    · obtain ⟨others, rest, hturns, hothers, hrest⟩ := ih hnil
      rw [hturns]
      exact ⟨others, rest, by simp [consTurn], hothers, hrest⟩

theorem map_resultId (hlen : calls.length = results.length) :
    (List.zipWith resultBlock calls results).map Block.resultId =
      calls.map fun call => some call.id := by
  induction calls generalizing results with
  | nil => rfl
  | cons call calls ih =>
    cases results with
    | nil => cases hlen
    | cons result results =>
      rw [List.zipWith_cons_cons, List.map_cons, List.map_cons, ih (Nat.succ.inj hlen)]
      rfl

theorem toolUses_spoken (text : String) (calls : List ToolUse) :
    toolUses ⟨.assistant, textBlocks text ++ calls.map .toolUse⟩ = calls := by
  rw [toolUses, List.filterMap_append, filterMap_call_of_plain (plain_textBlocks text),
    List.nil_append, List.filterMap_map]
  exact List.filterMap_some

theorem served_exchange {tail : List AnthropicMessage} (hcalls : calls ≠ [])
    (hlen : calls.length = results.length) (hserved : Served (turns tail))
    (hfresh : Fresh (turns tail)) :
    Served (turns (⟨.assistant, textBlocks text ++ calls.map .toolUse⟩ ::
        ((List.zipWith resultBlock calls results).map (fun block => ⟨.user, [block]⟩) ++ tail))) ∧
      Fresh (turns (⟨.assistant, textBlocks text ++ calls.map .toolUse⟩ ::
        ((List.zipWith resultBlock calls results).map
        (fun block => ⟨.user, [block]⟩) ++ tail))) := by
  have hresults : List.zipWith resultBlock calls results ≠ [] := by
    rw [← List.length_pos_iff, List.length_zipWith, ← hlen, Nat.min_self]
    exact List.length_pos_iff.mpr hcalls
  obtain ⟨others, rest, hturns, hothers, hrest⟩ := turns_results hserved hfresh hresults
  rw [turns, hturns, consTurn, if_neg (by intro h; cases h)]
  refine ⟨⟨fun _ _ => ⟨_, rfl, rfl, _, others, rfl, ?_, hothers⟩, ?_⟩, ?_⟩
  · rw [map_resultId hlen, toolUses_spoken]
  · refine ⟨?_, hrest⟩
    intro h
    cases h
  · intro message hm huser
    obtain rfl := Option.some.inj hm
    cases huser

def saidIn (messages : List AnthropicMessage) : List (Speaker × Block) :=
  messages.flatMap fun message => message.blocks.map (Prod.mk message.role)

theorem saidIn_cons (message : AnthropicMessage) (messages : List AnthropicMessage) :
    saidIn (message :: messages) = message.blocks.map (Prod.mk message.role) ++ saidIn messages :=
  List.flatMap_cons

theorem saidIn_singles (speaker : Speaker) (blocks : List Block)
    (messages : List AnthropicMessage) :
    saidIn (blocks.map (fun block => ⟨speaker, [block]⟩) ++ messages) =
      blocks.map (Prod.mk speaker) ++ saidIn messages := by
  induction blocks with
  | nil => rfl
  | cons block blocks ih => rw [List.map_cons, List.cons_append, saidIn_cons, ih]; rfl

theorem saidIn_turns (messages : List AnthropicMessage) :
    saidIn (turns messages) = saidIn messages :=
  flatMap_turns Prod.mk messages

theorem IsCall.id_ne {value : PyValue} {call : ToolUse} (h : IsCall floats value call) :
    call.id ≠ "" := by
  obtain ⟨-, hidText, -, -, -, -⟩ := h
  exact strip_ne_empty hidText

theorem HasCalls.id_ne {value : Option PyValue} (h : HasCalls floats value calls) :
    ∀ call ∈ calls, call.id ≠ "" := by
  cases h with
  | absent => exact fun _ h => nomatch h
  | null => exact fun _ h => nomatch h
  | list h =>
    induction h with
    | nil => exact fun _ h => nomatch h
    | cons hcall _ ih =>
      intro call hmem
      rcases List.mem_cons.mp hmem with rfl | hmem
      · exact hcall.id_ne
      · exact ih call hmem

theorem results_converted (h : List.Forall₂ (IsResult str) calls results)
    (hids : ∀ call ∈ calls, call.id ≠ "") :
    List.Forall₂ (ConvertsTo floats str) (results.map Prod.fst)
      (((List.zipWith resultBlock calls results).map fun block => ⟨.user, [block]⟩).map
        Converted.blocks) := by
  induction h with
  | nil => exact .nil
  | @cons call result calls results hresult _ ih =>
    exact .cons (convertMessage_result hresult (hids call List.mem_cons_self))
      (ih fun call' hcall' => hids call' (List.mem_cons_of_mem call hcall'))

theorem filterMap_message_blocks (messages : List AnthropicMessage) (converted : List Converted) :
    (messages.map Converted.blocks ++ converted).filterMap Converted.message =
      messages ++ converted.filterMap Converted.message := by
  rw [List.filterMap_append, List.filterMap_map]
  exact congrArg (· ++ _) List.filterMap_some

theorem filterMap_systemText_blocks (messages : List AnthropicMessage)
    (converted : List Converted) :
    (messages.map Converted.blocks ++ converted).filterMap Converted.systemText =
      converted.filterMap Converted.systemText := by
  have hnone : (messages.map Converted.blocks).filterMap Converted.systemText = [] := by
    rw [List.filterMap_eq_nil_iff]
    intro c hc
    obtain ⟨message, -, rfl⟩ := List.mem_map.mp hc
    rfl
  rw [List.filterMap_append, hnone, List.nil_append]

theorem History.converted {messages : List Message} {texts : List String}
    {said : List (Speaker × Block)} (h : History floats str messages texts said) :
    ∃ converted, List.Forall₂ (ConvertsTo floats str) messages converted ∧
      converted.filterMap Converted.systemText = texts ∧
      saidIn (converted.filterMap Converted.message) = said ∧
      Served (turns (converted.filterMap Converted.message)) ∧
      Fresh (turns (converted.filterMap Converted.message)) := by
  induction h with
  | nil => exact ⟨[], .nil, rfl, rfl, trivial, (fun _ h => nomatch h)⟩
  | @system message messages text texts said hrole hcontent _ ih =>
    obtain ⟨converted, hconverts, htexts, hsaid, hserved, hfresh⟩ := ih
    refine ⟨.system text :: converted, .cons (convertMessage_system hrole hcontent) hconverts, ?_,
      hsaid, hserved, hfresh⟩
    by_cases htext : text = ""
    · rw [List.filterMap_cons_none (by rw [Converted.systemText, if_pos htext]), htexts,
        if_pos htext]
    · rw [List.filterMap_cons_some (by rw [Converted.systemText, if_neg htext]), htexts,
        if_neg htext]
  | user hrole hcontent htext _ ih =>
    obtain ⟨converted, hconverts, htexts, hsaid, hserved, hfresh⟩ := ih
    refine ⟨_ :: converted, .cons (convertMessage_user hrole hcontent htext) hconverts, htexts,
      congrArg _ hsaid, ?_⟩
    refine served_consTurn_plain ?_ hserved hfresh
    intro block hblock
    rw [List.mem_singleton.mp hblock]
    exact ⟨rfl, rfl⟩
  | @assistant message messages text texts calls results said hrole hcontent hcalls hspoken hresults
      _ ih =>
    obtain ⟨converted, hconverts, htexts, hsaid, hserved, hfresh⟩ := ih
    have hconvertsAll : List.Forall₂ (ConvertsTo floats str)
        (message :: (results.map Prod.fst ++ messages))
        ((⟨.assistant, textBlocks text ++ calls.map .toolUse⟩ ::
          (List.zipWith resultBlock calls results).map (fun block => ⟨.user, [block]⟩)).map
            Converted.blocks ++ converted) :=
      .cons (convertMessage_assistant hrole hcontent hcalls hspoken)
        (List.rel_append (results_converted hresults hcalls.id_ne) hconverts)
    refine ⟨_, hconvertsAll, ?_⟩
    rw [filterMap_systemText_blocks, filterMap_message_blocks, ← hsaid]
    refine ⟨htexts, ?_, ?_⟩
    · rw [List.cons_append, saidIn_cons, saidIn_singles, List.append_assoc]
    · by_cases hnil : calls = []
      · subst hnil
        obtain rfl : results = [] := List.forall₂_nil_left_iff.mp hresults
        refine served_consTurn_plain ?_ hserved hfresh
        rw [List.map_nil, List.append_nil]
        exact plain_textBlocks text
      · exact served_exchange hnil hresults.length_eq hserved hfresh

/-! ### A response and its message -/

/-- The `tool_use` block that a block of a response is. -/
def blockToolUse (block : PyValue) : Option ToolUse :=
  match field "type" block, field "id" block, field "name" block, field "input" block with
  | some (.str "tool_use"), some (.str id), some (.str name), some (.dict input) =>
    some { id := id, name := name, input := input }
  | _, _, _, _ => none

/-- The `tool_use` blocks of a response. -/
def responseToolUses (response : PyValue) : List ToolUse :=
  match responseBlocks (field "content" response) with
  | .ok blocks => blocks.filterMap blockToolUse
  | .error _ => []

/-- A call as it comes back: without whitespace around its id and its name, and with its input
read as JSON. -/
def ToolUse.returned (call : ToolUse) : ToolUse where
  id := strip call.id
  name := strip call.name
  input := PyValue.jsonItems call.input

structure ParsesTo (floats : JsonFloats) (call : ToolUse) (toolCall : ToolCall) : Prop where
  id : isBlank call.id = false ∧ toolCall.id = strip call.id
  name : isBlank call.name = false ∧ toolCall.name = strip call.name
  arguments : dumps floats (.dict call.input) = some toolCall.arguments

theorem requiredStr_eq_ok {value : Option PyValue} {fieldName s : String}
    (h : requiredStr value fieldName = .ok s) :
    ∃ t, value = some (.str t) ∧ isBlank t = false ∧ s = strip t := by
  cases value with
  | none => cases h
  | some v =>
    cases v with
    | str t =>
      rw [requiredStr] at h
      split at h
      · cases h
      · rename_i hblank
        exact ⟨t, rfl, by simpa using hblank, (Except.ok.inj h).symm⟩
    | _ => cases h

theorem parseBlock_text {block : PyValue} (h : parseBlock floats block = .ok (.inl text)) :
    blockToolUse block = none := by
  rw [parseBlock] at h
  split at h
  · rename_i htype
    rw [blockToolUse, htype]
    rfl
  · obtain ⟨id, -, h⟩ := bind_eq_ok.mp h
    obtain ⟨name, -, h⟩ := bind_eq_ok.mp h
    split at h
    · split at h <;> cases h
    · cases h
  · cases h

theorem parseBlock_toolUse {block : PyValue} {toolCall : ToolCall}
    (h : parseBlock floats block = .ok (.inr toolCall)) :
    ∃ call, blockToolUse block = some call ∧ ParsesTo floats call toolCall := by
  rw [parseBlock] at h
  split at h
  · split at h <;> cases h
  · rename_i htype
    obtain ⟨id, hid, h⟩ := bind_eq_ok.mp h
    obtain ⟨name, hname, h⟩ := bind_eq_ok.mp h
    obtain ⟨idText, hidField, hid⟩ := requiredStr_eq_ok hid
    obtain ⟨nameText, hnameField, hname⟩ := requiredStr_eq_ok hname
    split at h
    · rename_i input hinput
      split at h
      · rename_i arguments harguments
        obtain rfl := Sum.inr.inj (Except.ok.inj h)
        refine ⟨{ id := idText, name := nameText, input := input }, ?_, hid, hname, harguments⟩
        rw [blockToolUse, htype, hidField, hnameField, hinput]
        rfl
      · cases h
    · cases h
  · cases h

theorem parseBlocks_toolUses : ∀ {blocks : List PyValue} {content : String}
    {toolCalls : List ToolCall}, parseBlocks floats blocks = .ok (content, toolCalls) →
      List.Forall₂ (ParsesTo floats) (blocks.filterMap blockToolUse) toolCalls := by
  intro blocks
  induction blocks with
  | nil =>
    intro content toolCalls h
    cases h
    exact .nil
  | cons block blocks ih =>
    intro content toolCalls h
    rw [parseBlocks] at h
    obtain ⟨parsed, hparsed, h⟩ := bind_eq_ok.mp h
    cases parsed with
    | inl text =>
      obtain ⟨⟨content', toolCalls'⟩, hrest, h⟩ := bind_eq_ok.mp h
      cases h
      rw [List.filterMap_cons_none (parseBlock_text hparsed)]
      exact ih hrest
    | inr toolCall =>
      obtain ⟨⟨content', toolCalls'⟩, hrest, h⟩ := bind_eq_ok.mp h
      cases h
      obtain ⟨call, hcall, hparses⟩ := parseBlock_toolUse hparsed
      rw [List.filterMap_cons_some hcall]
      exact .cons hparses (ih hrest)

theorem distinctKeys_of_mem {xs : List PyValue} (h : DistinctKeysAll xs) :
    ∀ x ∈ xs, DistinctKeys x := by
  induction xs with
  | nil => exact fun _ h => nomatch h
  | cons x xs ih =>
    intro y hy
    rcases List.mem_cons.mp hy with rfl | hy
    · exact h.1
    · exact ih h.2 y hy

theorem distinctKeys_lookupEntries {items : Message} (h : DistinctKeysItems items) {key : String}
    {v : PyValue} (hv : lookupEntries key items = some v) : DistinctKeys v := by
  induction items with
  | nil => cases hv
  | cons item items ih =>
    rw [lookupEntries] at hv
    split at hv
    · exact Option.some.inj hv ▸ h.1
    · exact ih h.2 hv

theorem distinctKeys_field {v w : PyValue} (h : DistinctKeys v) {name : String}
    (hw : field name v = some w) : DistinctKeys w := by
  cases v with
  | dict items => exact distinctKeys_lookupEntries h.2 hw
  | _ => cases hw

theorem distinctKeys_responseBlocks {content : Option PyValue} {blocks : List PyValue}
    (h : responseBlocks content = .ok blocks) (hkeys : ∀ v ∈ content, DistinctKeys v) :
    ∀ block ∈ blocks, DistinctKeys block := by
  have hstr : ∀ {α : Type} (l : List α) (f : α → String),
      ∀ block ∈ l.map fun a => PyValue.str (f a), DistinctKeys block := by
    intro α l f block hblock
    obtain ⟨a, -, rfl⟩ := List.mem_map.mp hblock
    trivial
  cases content with
  | none =>
    cases h
    exact fun _ h => nomatch h
  | some v =>
    have hv := hkeys v rfl
    cases v with
    | none =>
      cases h
      exact fun _ h => nomatch h
    | list xs =>
      cases h
      exact distinctKeys_of_mem hv
    | tuple xs =>
      cases h
      exact distinctKeys_of_mem hv
    | dict items =>
      cases h
      exact hstr items Prod.fst
    | str s =>
      cases h
      exact hstr s.toList String.singleton
    | bool b => cases h
    | int n => cases h
    | float x => cases h

theorem distinctKeys_input {block : PyValue} {call : ToolUse} (h : blockToolUse block = some call)
    (hkeys : DistinctKeys block) : DistinctKeys (.dict call.input) := by
  rw [blockToolUse] at h
  split at h
  · rename_i hinput
    obtain rfl := Option.some.inj h
    exact distinctKeys_field hkeys hinput
  · cases h

theorem isCall_toMessage {call : ToolUse} {toolCall : ToolCall}
    (h : ParsesTo floats call toolCall) (hkeys : DistinctKeys (.dict call.input)) :
    IsCall floats toolCall.toMessage call.returned := by
  have hid : call.returned.id = strip toolCall.id := by rw [h.id.2, strip_strip]; rfl
  have hname : call.returned.name = strip toolCall.name := by rw [h.name.2, strip_strip]; rfl
  have hreturned : call.returned =
      ⟨strip toolCall.id, strip toolCall.name, PyValue.jsonItems call.input⟩ := by
    rw [← hid, ← hname]
    rfl
  rw [hreturned]
  refine .mk rfl ?_ rfl rfl ?_ (.text (loads_dumps floats h.arguments hkeys))
  · rw [h.id.2, isBlank_strip, h.id.1]
  · rw [h.name.2, isBlank_strip, h.name.1]

theorem isCall_toMessages {toolCalls : List ToolCall}
    (h : List.Forall₂ (ParsesTo floats) calls toolCalls)
    (hkeys : ∀ call ∈ calls, DistinctKeys (.dict call.input)) :
    List.Forall₂ (IsCall floats) (toolCalls.map ToolCall.toMessage)
      (calls.map ToolUse.returned) := by
  induction h with
  | nil => exact .nil
  | @cons call toolCall calls toolCalls hparses _ ih =>
    exact .cons (isCall_toMessage hparses (hkeys call List.mem_cons_self))
      (ih fun call' hcall' => hkeys call' (List.mem_cons_of_mem call hcall'))

/-- **The message of a response is converted to the calls of the response.** -/
theorem returns_toolUses {response : PyValue} {parsed : ParsedResponse}
    (hkeys : DistinctKeys response)
    (h : parseAnthropicResponse floats response = .ok parsed)
    (hne : responseToolUses response ≠ []) :
    ∃ message, toAnthropicMessages floats str [parsed.rawAssistantMessage] = .ok (none, [message]) ∧
      message.role = .assistant ∧
      toolUses message = (responseToolUses response).map ToolUse.returned := by
  rw [parseAnthropicResponse] at h
  obtain ⟨blocks, hblocks, h⟩ := bind_eq_ok.mp h
  obtain ⟨⟨content, toolCalls⟩, hparsed, h⟩ := bind_eq_ok.mp h
  have huses : responseToolUses response = blocks.filterMap blockToolUse := by
    rw [responseToolUses, hblocks]
  rw [huses] at hne ⊢
  have hforall := parseBlocks_toolUses hparsed
  have hcallsNe : toolCalls ≠ [] := by
    rintro rfl
    exact hne (List.forall₂_nil_right_iff.mp hforall)
  have hblockKeys := distinctKeys_responseBlocks hblocks
    fun v hv => distinctKeys_field hkeys hv
  have hinputs : ∀ call ∈ blocks.filterMap blockToolUse, DistinctKeys (.dict call.input) := by
    intro call hcall
    obtain ⟨block, hblock, hcall⟩ := List.mem_filterMap.mp hcall
    exact distinctKeys_input hcall (hblockKeys block hblock)
  have hblocksNe : blocks ≠ [] := by
    rintro rfl
    exact hne rfl
  simp only [if_neg hblocksNe, if_neg hcallsNe] at h
  cases h
  have hrole :
      String.ofList ((strip "assistant").toList.map Char.toLower) = "assistant" := by decide
  have hconverts : ConvertsTo floats str _ _ := @convertMessage_assistant floats str
    [("role", .str "assistant"), ("content", .str content),
      ("tool_calls", .list (toolCalls.map ToolCall.toMessage))] content _
    hrole (.str content) (.list (isCall_toMessages hforall hinputs))
    (.inr (by simpa using hne))
  refine ⟨_, convertFrom_of_forall₂ (.cons hconverts .nil) [] [], rfl, toolUses_spoken _ _⟩

/-! ### The tool protocol -/

/-- **What a conversion keeps of the tool protocol.**  A history is converted, to messages of
alternating roles with the results of every call right behind it, in which the same is said; and
the message of a response is converted to the calls of the response. -/
theorem converts_and_returns (floats : JsonFloats) (str : PyValue → String) :
    (∀ (messages : List Message) (texts : List String) (said : List (Speaker × Block)),
      History floats str messages texts said →
        ∃ converted, toAnthropicMessages floats str messages = .ok (joinSystem texts, converted) ∧
          converted.IsChain (fun m m' => m.role ≠ m'.role) ∧ Served converted ∧
          saidIn converted = said) ∧
    (∀ (response : PyValue) (parsed : ParsedResponse), DistinctKeys response →
      parseAnthropicResponse floats response = .ok parsed → responseToolUses response ≠ [] →
        ∃ message,
          toAnthropicMessages floats str [parsed.rawAssistantMessage] = .ok (none, [message]) ∧
          message.role = .assistant ∧
          toolUses message = (responseToolUses response).map ToolUse.returned) := by
  refine ⟨?_, fun response parsed hkeys h hne => returns_toolUses hkeys h hne⟩
  intro messages texts said h
  obtain ⟨converted, hconverts, htexts, hsaid, hserved, -⟩ := h.converted
  have hrun := convertFrom_of_forall₂ hconverts [] []
  rw [htexts, foldl_addTurn, List.nil_append] at hrun
  exact ⟨_, hrun, isChain_turns _, hserved, by rw [saidIn_turns, hsaid]⟩

/-! ### One exchange, and ids between blanks -/

def callResponse (id : String) : PyValue :=
  .dict [("content", .list [.dict [("type", .str "tool_use"), ("id", .str id),
    ("name", .str "read"), ("input", .dict [("path", .str "a.py")])]])]

theorem distinctKeys_callResponse (id : String) : DistinctKeys (callResponse id) := by
  simp [callResponse, DistinctKeys, DistinctKeysItems, DistinctKeysAll]

def parsedCall (id : String) : ParsedResponse where
  content := ""
  toolCalls := [⟨id, "read", "\x7b\"path\":\"a.py\"\x7d"⟩]
  rawAssistantMessage := [("role", .str "assistant"), ("content", .str ""),
    ("tool_calls", .list [.dict [("id", .str id), ("type", .str "function"),
      ("function", .dict [("name", .str "read"),
        ("arguments", .str "\x7b\"path\":\"a.py\"\x7d")])]])]

/-- The answer to the call. -/
def resultMessage : Message :=
  [("role", .str "tool"), ("tool_call_id", .str "toolu_1"), ("content", .str "x = 1")]

def readCall (id : String) : ToolUse :=
  { id := id, name := "read", input := [("path", .str "a.py")] }

theorem history_exchange : History .whole (fun _ => "")
    [(parsedCall "toolu_1").rawAssistantMessage, resultMessage] []
    [(.assistant, .toolUse (readCall "toolu_1")), (.user, .toolResult "toolu_1" "x = 1")] := by
  have hloads :
      loads .whole "\x7b\"path\":\"a.py\"\x7d" = some (.dict [("path", .str "a.py")]) := by
    decide +kernel
  have hcall : IsCall .whole (.dict [("id", .str "toolu_1"), ("type", .str "function"),
      ("function", .dict [("name", .str "read"),
        ("arguments", .str "\x7b\"path\":\"a.py\"\x7d")])]) (readCall "toolu_1") :=
    @IsCall.mk _ _ _ _ "toolu_1" "read" rfl rfl rfl rfl rfl (.text hloads)
  have hresult : IsResult (fun _ => "") (readCall "toolu_1") (resultMessage, "x = 1") :=
    ⟨rfl, ⟨"toolu_1", rfl, rfl⟩, .str "x = 1"⟩
  have hrole : roleOf (fun _ => "") (parsedCall "toolu_1").rawAssistantMessage = "assistant" := rfl
  exact @History.assistant .whole (fun _ => "") _ [] "" [] [readCall "toolu_1"]
    [(resultMessage, "x = 1")] [] hrole (.str "") (.list (.cons hcall .nil)) (.inr (by simp))
    (.cons hresult .nil) .nil

/-- The message of the response comes back with calls of the same ids, names and inputs. -/
def ReturnsSame (floats : JsonFloats) (str : PyValue → String) (response : PyValue) : Prop :=
  ∀ parsed, parseAnthropicResponse floats response = .ok parsed → responseToolUses response ≠ [] →
    ∃ system messages,
      toAnthropicMessages floats str [parsed.rawAssistantMessage] = .ok (system, messages) ∧
        messages.flatMap toolUses = responseToolUses response

/-- An id comes back without the blanks around it. -/
theorem not_returnsSame_padded :
    ¬ ReturnsSame .whole (fun _ => "") (callResponse " toolu_1 ") := by
  intro h
  have hparse : parseAnthropicResponse .whole (callResponse " toolu_1 ") =
      .ok (parsedCall "toolu_1") := rfl
  obtain ⟨system, messages, hrun, hsame⟩ := h _ hparse (by decide)
  obtain ⟨message, hrun', -, huses⟩ := @returns_toolUses .whole (fun _ => "") _ _
    (distinctKeys_callResponse _) hparse (by decide)
  have hmessages : messages = [message] :=
    congrArg Prod.snd (Except.ok.inj (hrun.symm.trans hrun'))
  rw [hmessages, List.flatMap_singleton, huses] at hsame
  exact absurd hsame (by decide)

theorem converts_and_returns_exchange :
    (∃ converted,
      toAnthropicMessages .whole (fun _ => "")
          [(parsedCall "toolu_1").rawAssistantMessage, resultMessage] = .ok (none, converted) ∧
        converted.IsChain (fun m m' => m.role ≠ m'.role) ∧ Served converted ∧
        saidIn converted =
          [(.assistant, .toolUse (readCall "toolu_1")), (.user, .toolResult "toolu_1" "x = 1")]) ∧
    (∃ message,
      toAnthropicMessages .whole (fun _ => "") [(parsedCall "toolu_1").rawAssistantMessage] =
          .ok (none, [message]) ∧
        message.role = .assistant ∧ toolUses message = [readCall "toolu_1"]) :=
  ⟨(converts_and_returns .whole fun _ => "").1 _ _ _ history_exchange,
    (converts_and_returns .whole fun _ => "").2 (callResponse " toolu_1 ") (parsedCall "toolu_1")
      (distinctKeys_callResponse _) rfl (by decide)⟩

end Taskweavn.Llm
