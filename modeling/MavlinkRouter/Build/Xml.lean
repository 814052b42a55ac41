import MavlinkRouter.Build.ArrayTypes
import MavlinkRouter.Library.Fallible

/-!
# Dialect files

The build script reads a dialect file as a list of XML events and picks out the names of the
files it includes and the definitions of its messages; everything else in the file is passed over.
Fields that come after the mark for extensions are extension fields.
-/

namespace MavlinkRouter.Build

open Library (trim parseUnsigned IsSignedNumeral foldlM_cons_of_ok foldlM_append_of_ok)

/-- The names of the attributes of an element and their values. -/
abbrev Attributes := List (String × String)

/-- What the XML reader reports, up to the end of the file. -/
inductive XmlEvent where
  | start (tag : String) (attributes : Attributes)
  | empty (tag : String) (attributes : Attributes)
  | text (text : String)
  | close (tag : String)
  | other
  | failed
  deriving DecidableEq, Repr

/-- The panics of the script while it loads a file. -/
inductive LoadPanic where
  | reader
  | messageId (value : String)
  | slice (typeName : String)
  | arrayType (error : ParseArrayError)
  | message (panic : BuildPanic)
  deriving DecidableEq, Repr

def parseMsgAttrs (attributes : Attributes) : Except LoadPanic (UInt32 × String) :=
  attributes.foldlM (fun found attr =>
    if attr.1 = "id" then
      match parseUnsigned (2 ^ 32) (trim attr.2) with
      | some id => .ok (.ofNat id, found.2)
      | none => .error (.messageId attr.2)
    else if attr.1 = "name" then .ok (found.1, attr.2)
    else .ok found) (0, "")

/-- The type and the name of a field. -/
def parseFieldAttrs (attributes : Attributes) : String × String :=
  attributes.foldl (fun found attr =>
    if attr.1 = "type" then (attr.2, found.2)
    else if attr.1 = "name" then (found.1, attr.2)
    else found) ("", "")

/-- A field belongs to the message that is being read, if there is one. -/
def pushField (attributes : Attributes) (currentMsg : Option ParsedMessage)
    (pastExtensions : Bool) : Except LoadPanic (Option ParsedMessage) :=
  match currentMsg with
  | none => .ok none
  | some msg =>
    let found := parseFieldAttrs attributes
    match parseArraySuffix found.1 with
    | none => .error (.slice found.1)
    | some (.error error) => .error (.arrayType error)
    | some (.ok (elem, len)) =>
      .ok (some { msg with fields := msg.fields ++ [⟨found.2, elem, len, pastExtensions⟩] })

/-- The variables of the loop over the events. -/
structure XmlState where
  includes : List String
  messages : List ParsedMessage
  inInclude : Bool
  currentMsg : Option ParsedMessage
  pastExtensions : Bool
  deriving DecidableEq, Repr

namespace XmlState

/-- The elements that may be empty. -/
def inner (state : XmlState) (tag : String) (attributes : Attributes) :
    Except LoadPanic XmlState :=
  if tag = "extensions" then
    .ok (if state.currentMsg.isSome then { state with pastExtensions := true } else state)
  else if tag = "field" then
    (pushField attributes state.currentMsg state.pastExtensions).map
      fun currentMsg => { state with currentMsg }
  else .ok state

def handle (state : XmlState) : XmlEvent → Except LoadPanic XmlState
  | .start tag attributes =>
    if tag = "include" then .ok { state with inInclude := true }
    else if tag = "message" then
      (parseMsgAttrs attributes).map fun found =>
        { state with currentMsg := some ⟨found.1, found.2, []⟩, pastExtensions := false }
    else state.inner tag attributes
  | .empty tag attributes => state.inner tag attributes
  | .text text =>
    if state.inInclude then
      let text := trim text
      .ok (if text.isEmpty then state else { state with includes := state.includes ++ [text] })
    else .ok state
  | .close tag =>
    if tag = "include" then .ok { state with inInclude := false }
    else if tag = "message" then
      match state.currentMsg with
      | some msg => .ok { state with messages := state.messages ++ [msg], currentMsg := none }
      | none => .ok state
    else .ok state
  | .other => .ok state
  | .failed => .error .reader

end XmlState

/-- The files that a file includes, and its messages. -/
def parseXml (events : List XmlEvent) : Except LoadPanic (List String × List ParsedMessage) :=
  (events.foldlM XmlState.handle ⟨[], [], false, none, false⟩).map
    fun state => (state.includes, state.messages)

section Format

/-- The element has the attribute, and with that value only. -/
def HasAttribute (attributes : Attributes) (key value : String) : Prop :=
  (key, value) ∈ attributes ∧ ∀ other, (key, other) ∈ attributes → other = value

/-- The element defines the field. -/
structure DefinesField (attributes : Attributes) (field : ParsedField) : Prop where
  name : HasAttribute attributes "name" field.name
  type : ∃ typeName, HasAttribute attributes "type" typeName ∧
    IsType IsSignedNumeral typeName field.typeName field.arrayLength

/-- The element begins the definition of the message. -/
structure DefinesMessage (attributes : Attributes) (msg : ParsedMessage) : Prop where
  name : HasAttribute attributes "name" msg.name
  id : ∃ value, HasAttribute attributes "id" value ∧
    IsSignedNumeral (trim value).toList msg.id.toNat

/-- An element, with content or without. -/
def IsElement (tag : String) (attributes : Attributes) (event : XmlEvent) : Prop :=
  event = .start tag attributes ∨ event = .empty tag attributes

/-- The events that are passed over, such as descriptions. -/
def Neutral : XmlEvent → Prop
  | .start tag _ => tag ∉ ["include", "message", "extensions", "field"]
  | .empty tag _ => tag ∉ ["extensions", "field"]
  | .text _ => True
  | .close tag => tag ∉ ["include", "message"]
  | .other => True
  | .failed => False

/-- The content of a message, before the mark for extensions or after it. -/
inductive MessageBody : Bool → List ParsedField → List XmlEvent → Prop
  | nil {past : Bool} : MessageBody past [] []
  | neutral {past : Bool} {fields : List ParsedField} {event : XmlEvent} {events : List XmlEvent}
      (hevent : Neutral event) (hrest : MessageBody past fields events) :
      MessageBody past fields (event :: events)
  | field {past : Bool} {field : ParsedField} {fields : List ParsedField} {event : XmlEvent}
      {events : List XmlEvent} {attributes : Attributes}
      (hevent : IsElement "field" attributes event) (hfield : DefinesField attributes field)
      (hpast : field.isExtension = past) (hrest : MessageBody past fields events) :
      MessageBody past (field :: fields) (event :: events)
  | extensions {past : Bool} {fields : List ParsedField} {event : XmlEvent}
      {events : List XmlEvent} {attributes : Attributes}
      (hevent : IsElement "extensions" attributes event) (hrest : MessageBody true fields events) :
      MessageBody past fields (event :: events)

/-- A dialect file with its includes and its messages. -/
inductive DialectFile : List String → List ParsedMessage → List XmlEvent → Prop
  | nil : DialectFile [] [] []
  | neutral {includes : List String} {messages : List ParsedMessage} {event : XmlEvent}
      {events : List XmlEvent} (hevent : Neutral event)
      (hrest : DialectFile includes messages events) :
      DialectFile includes messages (event :: events)
  | include {includes : List String} {messages : List ParsedMessage} {text : String}
      {events : List XmlEvent} {attributes : Attributes} (hname : (trim text).isEmpty = false)
      (hrest : DialectFile includes messages events) :
      DialectFile (trim text :: includes) messages
        (.start "include" attributes :: .text text :: .close "include" :: events)
  | message {includes : List String} {messages : List ParsedMessage} {msg : ParsedMessage}
      {body events : List XmlEvent} {attributes : Attributes}
      (hmsg : DefinesMessage attributes msg) (hbody : MessageBody false msg.fields body)
      (hrest : DialectFile includes messages events) :
      DialectFile includes (msg :: messages)
        (.start "message" attributes :: (body ++ .close "message" :: events))

end Format

section Reading

variable {attributes : Attributes}

/-- The last value of an attribute. -/
def lastValue (key : String) (attributes : Attributes) (default : String) : String :=
  attributes.foldl (fun found attr => if attr.1 = key then attr.2 else found) default

private theorem lastValue_cons (key : String) (attr : String × String) (attributes : Attributes)
    (default : String) : lastValue key (attr :: attributes) default =
      lastValue key attributes (if attr.1 = key then attr.2 else default) := rfl

private theorem lastValue_eq {key value default : String}
    (hvalue : ∀ other, (key, other) ∈ attributes → other = value)
    (hsome : (key, value) ∈ attributes ∨ default = value) :
    lastValue key attributes default = value := by
  induction attributes generalizing default with
  | nil => exact hsome.resolve_left List.not_mem_nil
  | cons attr attributes ih =>
    have htail := fun other hother => hvalue other (List.mem_cons_of_mem _ hother)
    rw [lastValue_cons]
    by_cases hkey : attr.1 = key
    · rw [if_pos hkey]
      have hattr : attr.2 = value := hvalue attr.2 (by rw [← hkey]; exact List.mem_cons_self)
      exact ih htail (.inr hattr)
    · rw [if_neg hkey]
      refine ih htail (hsome.imp_left fun hmem => ?_)
      refine (List.mem_cons.mp hmem).resolve_left ?_
      rintro rfl
      exact hkey rfl

private theorem HasAttribute.lastValue {key value default : String}
    (h : HasAttribute attributes key value) : lastValue key attributes default = value :=
  lastValue_eq h.2 (.inl h.1)

private theorem parseFieldAttrs_eq (attributes : Attributes) :
    parseFieldAttrs attributes =
      (lastValue "type" attributes "", lastValue "name" attributes "") := by
  suffices h : ∀ found : String × String, attributes.foldl (fun found attr =>
      if attr.1 = "type" then (attr.2, found.2)
      else if attr.1 = "name" then (found.1, attr.2)
      else found) found =
      (lastValue "type" attributes found.1, lastValue "name" attributes found.2) from
    h ("", "")
  induction attributes with
  | nil => exact fun found => rfl
  | cons attr attributes ih =>
    intro found
    rw [List.foldl_cons, ih, lastValue_cons, lastValue_cons]
    by_cases htype : attr.1 = "type"
    · simp [htype]
    · by_cases hname : attr.1 = "name" <;> simp [htype, hname]

/-- The attributes of a message element. -/
private theorem parseMsgAttrs_eq {id : UInt32} {value : String}
    (hid : HasAttribute attributes "id" value)
    (hvalue : IsSignedNumeral (trim value).toList id.toNat) :
    parseMsgAttrs attributes = .ok (id, lastValue "name" attributes "") := by
  have hparse : parseUnsigned (2 ^ 32) (trim value) = some id.toNat :=
    Library.parseUnsigned_eq_some_iff.mpr ⟨hvalue, id.toNat_lt⟩
  have hread : ∀ other, ("id", other) ∈ attributes →
      parseUnsigned (2 ^ 32) (trim other) = some id.toNat := by
    intro other hother
    rw [hid.2 other hother, hparse]
  have hsome : "id" ∈ attributes.map Prod.fst ∨ (0 : UInt32) = id :=
    .inl (List.mem_map_of_mem hid.1)
  unfold parseMsgAttrs
  generalize (0 : UInt32) = first at hsome ⊢
  generalize "" = name
  clear hid
  induction attributes generalizing first name with
  | nil =>
    obtain rfl := hsome.resolve_left List.not_mem_nil
    rfl
  | cons attr attributes ih =>
    have htail := fun other hother => hread other (List.mem_cons_of_mem _ hother)
    rw [List.foldlM_cons, lastValue_cons]
    by_cases hkey : attr.1 = "id"
    · have hattr := hread attr.2 (by rw [← hkey]; exact List.mem_cons_self)
      have hname : attr.1 ≠ "name" := by
        rw [hkey]
        decide
      rw [if_pos hkey, hattr, if_neg hname]
      dsimp only
      rw [UInt32.ofNat_toNat]
      exact ih htail id (.inr rfl) name
    · have hmem := hsome.imp_left fun hmem =>
        (List.mem_cons.mp hmem).resolve_left fun heq => hkey heq.symm
      rw [if_neg hkey]
      by_cases hname : attr.1 = "name"
      · rw [if_pos hname, if_pos hname]
        exact ih htail first hmem attr.2
      · rw [if_neg hname, if_neg hname]
        exact ih htail first hmem name

private theorem parseArraySuffix_of_isType {typeName elem : String} {length : UInt8}
    (h : IsType IsSignedNumeral typeName elem length) :
    parseArraySuffix typeName = some (.ok (elem, length)) := by
  rcases h with ⟨hopen, -, rfl, rfl⟩ | ⟨digits, htext, hopen, hclose, hnumeral, hpos⟩
  · exact parseArraySuffix_scalar hopen
  · have hdigits := not_mem_of_isSignedNumeral hnumeral
    rw [parseArraySuffix_array htext hopen hclose hdigits, Option.some.injEq,
      readLength_eq_ok_iff, String.ofList_toList, String.toList_ofList]
    exact ⟨rfl, hnumeral, hpos⟩

/-- A well-formed field is added to the message. -/
theorem pushField_eq {field : ParsedField} (hfield : DefinesField attributes field)
    (msg : ParsedMessage) :
    pushField attributes (some msg) field.isExtension =
      .ok (some { msg with fields := msg.fields ++ [field] }) := by
  obtain ⟨typeName, htype, hisType⟩ := hfield.type
  have hfound : parseFieldAttrs attributes = (typeName, field.name) := by
    rw [parseFieldAttrs_eq, htype.lastValue, hfield.name.lastValue]
  simp only [pushField, hfound, parseArraySuffix_of_isType hisType]

private theorem handle_neutral {event : XmlEvent} (hevent : Neutral event) {state : XmlState}
    (hinclude : state.inInclude = false) : state.handle event = .ok state := by
  cases event with
  | start tag attributes =>
    simp only [Neutral, List.mem_cons, List.not_mem_nil, or_false, not_or] at hevent
    simp [XmlState.handle, XmlState.inner, hevent]
  | empty tag attributes =>
    simp only [Neutral, List.mem_cons, List.not_mem_nil, or_false, not_or] at hevent
    simp [XmlState.handle, XmlState.inner, hevent]
  | text text => simp [XmlState.handle, hinclude]
  | close tag =>
    simp only [Neutral, List.mem_cons, List.not_mem_nil, or_false, not_or] at hevent
    simp [XmlState.handle, hevent]
  | other => rfl
  | failed => exact hevent.elim

/-- Inner elements are read the same way with content and without. -/
theorem handle_element {tag : String} {event : XmlEvent} (hevent : IsElement tag attributes event)
    (hinclude : tag ≠ "include") (hmessage : tag ≠ "message") (state : XmlState) :
    state.handle event = state.inner tag attributes := by
  rcases hevent with rfl | rfl
  · simp only [XmlState.handle, if_neg hinclude, if_neg hmessage]
  · rfl

/-- The fields of a message are added to it one by one. -/
theorem foldlM_handle_messageBody {past : Bool} {fields : List ParsedField}
    {events : List XmlEvent} (h : MessageBody past fields events) (includes : List String)
    (messages : List ParsedMessage) (msg : ParsedMessage) :
    ∃ last, events.foldlM XmlState.handle ⟨includes, messages, false, some msg, past⟩ =
      .ok ⟨includes, messages, false, some { msg with fields := msg.fields ++ fields }, last⟩ := by
  induction h generalizing msg with
  | @nil past =>
    refine ⟨past, ?_⟩
    rw [List.append_nil]
    rfl
  | neutral hevent hrest ih =>
    rw [foldlM_cons_of_ok (handle_neutral hevent rfl)]
    exact ih msg
  | @field past field fields event events attributes hevent hfield hpast hrest ih =>
    subst hpast
    have hhandle : XmlState.handle ⟨includes, messages, false, some msg, field.isExtension⟩ event =
        .ok ⟨includes, messages, false, some { msg with fields := msg.fields ++ [field] },
          field.isExtension⟩ := by
      rw [handle_element hevent (by decide) (by decide), XmlState.inner, if_neg (by decide),
        if_pos rfl, pushField_eq hfield]
      rfl
    obtain ⟨last, hrun⟩ := ih { msg with fields := msg.fields ++ [field] }
    refine ⟨last, ?_⟩
    rw [foldlM_cons_of_ok hhandle, hrun]
    simp only [List.append_assoc, List.singleton_append]
  | @extensions past fields event events attributes hevent hrest ih =>
    have hhandle : XmlState.handle ⟨includes, messages, false, some msg, past⟩ event =
        .ok ⟨includes, messages, false, some msg, true⟩ := by
      rw [handle_element hevent (by decide) (by decide), XmlState.inner, if_pos rfl]
      rfl
    rw [foldlM_cons_of_ok hhandle]
    exact ih msg

/-- The messages of a file are completed one by one. -/
theorem foldlM_handle_dialectFile {includes : List String} {messages : List ParsedMessage}
    {events : List XmlEvent} (h : DialectFile includes messages events) (before : List String)
    (done : List ParsedMessage) (past : Bool) :
    ∃ last, events.foldlM XmlState.handle ⟨before, done, false, none, past⟩ =
      .ok ⟨before ++ includes, done ++ messages, false, none, last⟩ := by
  induction h generalizing before done past with
  | nil =>
    refine ⟨past, ?_⟩
    rw [List.append_nil, List.append_nil]
    rfl
  | neutral hevent hrest ih =>
    rw [foldlM_cons_of_ok (handle_neutral hevent rfl)]
    exact ih before done past
  | @«include» includes messages text events attributes hname hrest ih =>
    have hopen : XmlState.handle ⟨before, done, false, none, past⟩ (.start "include" attributes) =
        .ok ⟨before, done, true, none, past⟩ := rfl
    have htext : XmlState.handle ⟨before, done, true, none, past⟩ (.text text) =
        .ok ⟨before ++ [trim text], done, true, none, past⟩ := by
      simp [XmlState.handle, hname]
    have hclose : XmlState.handle ⟨before ++ [trim text], done, true, none, past⟩
        (.close "include") = .ok ⟨before ++ [trim text], done, false, none, past⟩ := rfl
    obtain ⟨last, hrun⟩ := ih (before ++ [trim text]) done past
    refine ⟨last, ?_⟩
    rw [foldlM_cons_of_ok hopen, foldlM_cons_of_ok htext, foldlM_cons_of_ok hclose, hrun,
      List.append_assoc, List.singleton_append]
  | @message includes messages msg body events attributes hmsg hbody hrest ih =>
    obtain ⟨value, hid, hvalue⟩ := hmsg.id
    have hstart : XmlState.handle ⟨before, done, false, none, past⟩ (.start "message" attributes) =
        .ok ⟨before, done, false, some ⟨msg.id, msg.name, []⟩, false⟩ := by
      rw [XmlState.handle, if_neg (by decide), if_pos rfl, parseMsgAttrs_eq hid hvalue,
        hmsg.name.lastValue]
      rfl
    obtain ⟨inner, hfields⟩ := foldlM_handle_messageBody hbody before done ⟨msg.id, msg.name, []⟩
    have hclose : XmlState.handle ⟨before, done, false, some msg, inner⟩ (.close "message") =
        .ok ⟨before, done ++ [msg], false, none, inner⟩ := rfl
    obtain ⟨last, hrun⟩ := ih before (done ++ [msg]) inner
    refine ⟨last, ?_⟩
    rw [foldlM_cons_of_ok hstart, foldlM_append_of_ok hfields]
    dsimp only
    rw [List.nil_append, foldlM_cons_of_ok hclose, hrun, List.append_assoc, List.singleton_append]

/-- A dialect file is read as it is meant. -/
theorem parseXml_dialectFile {includes : List String} {messages : List ParsedMessage}
    {events : List XmlEvent} (h : DialectFile includes messages events) :
    parseXml events = .ok (includes, messages) := by
  obtain ⟨last, hevents⟩ := foldlM_handle_dialectFile h [] [] false
  rw [parseXml, hevents]
  rfl

/-- A file with a description, an array and an extension field. -/
example : parseXml [.start "mavlink" [], .start "include" [], .text "standard.xml",
    .close "include", .start "message" [("id", "4"), ("name", "PING")], .start "description" [],
    .text "A ping message.", .close "description",
    .start "field" [("type", "uint8_t[3]"), ("name", "seq")], .close "field",
    .empty "extensions" [], .empty "field" [("type", "uint8_t"), ("name", "target_system")],
    .close "message", .close "mavlink"] =
    .ok (["standard.xml"], [⟨4, "PING", [⟨"seq", "uint8_t", 3, false⟩,
      ⟨"target_system", "uint8_t", 0, true⟩]⟩]) := by
  decide +kernel

end Reading

end MavlinkRouter.Build
