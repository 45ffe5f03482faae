import PssAsio.GeneratedText
import PssAsio.BufferRoundTrip
import PssAsio.LogicMakerCore

/-!
The generated bodies, read back into statements and carried out.
-/

namespace PssAsio.LogicMaker

open GeneratedText

/-- The types that the buffers have operators for, under the names of `define.h`. -/
def memberTypes : List (Text × FieldType) :=
  [(text "uint8", .number .uint8), (text "uint16", .number .uint16),
    (text "uint32", .number .uint32), (text "uint64", .number .uint64),
    (text "int8", .number .int8), (text "int16", .number .int16),
    (text "int32", .number .int32), (text "int64", .number .int64),
    (text "float32", .number .float32), (text "float64", .number .float64),
    (text "std::string", .string), (text "string", .string)]

def memberType (paramValue : Text) : Option FieldType := memberTypes.lookup paramValue

/-- The keywords of C++17 and the words that stand for operators. -/
def keywords : List Text :=
  ["alignas", "alignof", "and", "and_eq", "asm", "auto", "bitand", "bitor", "bool", "break", "case",
    "catch", "char", "char16_t", "char32_t", "class", "compl", "const", "const_cast", "constexpr",
    "continue", "decltype", "default", "delete", "do", "double", "dynamic_cast", "else", "enum",
    "explicit", "export", "extern", "false", "float", "for", "friend", "goto", "if", "inline",
    "int", "long", "mutable", "namespace", "new", "noexcept", "not", "not_eq", "nullptr",
    "operator", "or", "or_eq", "private", "protected", "public", "register", "reinterpret_cast",
    "return", "short", "signed", "sizeof", "static", "static_assert", "static_cast", "struct",
    "switch", "template", "this", "thread_local", "throw", "true", "try", "typedef", "typeid",
    "typename", "union", "unsigned", "using", "virtual", "void", "volatile", "wchar_t", "while",
    "xor", "xor_eq"].map text

/-- The members can stand in one class with the method, and none changes the meaning of a type. -/
def Declares (method : Text) (paramList : List LogicClassParamInfo) : Prop :=
  ∀ param ∈ paramList, param.paramName ∉ keywords ∧ param.paramName ≠ method ∧
    param.paramName ∉ paramList.map LogicClassParamInfo.paramValue
  deriving Decidable

abbrev Members : Type := Text → Option (Sigma FieldType.Value)

inductive Meaning where
  | object
  | parameter
  | member (value : Sigma FieldType.Value)

def meaning (object : Option Text) (members : Members) (name : Text) : Option Meaning :=
  if object = some name then some .object
  else if name = text "buffer" then some .parameter
  else (members name).map .member

def Visible (object name : Text) : Prop := name ≠ object ∧ name ≠ text "buffer"

section Meanings

variable {object name : Text} {members : Members}

@[simp]
theorem meaning_object : meaning (some object) members object = some .object := by
  simp [meaning]

theorem meaning_parameter (other : object ≠ text "buffer") :
    meaning (some object) members (text "buffer") = some .parameter := by
  simp [meaning, other]

theorem meaning_member (visible : Visible object name) :
    meaning (some object) members name = (members name).map .member := by
  simp [meaning, Ne.symm visible.1, visible.2]

theorem object_of_meaning (found : meaning (some object) members name = some .object) :
    name = object := by
  by_contra other
  by_cases parameter : name = text "buffer"
  · subst parameter
    rw [meaning_parameter (Ne.symm other)] at found
    cases found
  · rw [meaning_member ⟨other, parameter⟩, Option.map_eq_some_iff] at found
    obtain ⟨value, -, impossible⟩ := found
    cases impossible

theorem meaning_of_hidden (members : Members) (hidden : ¬Visible object name) :
    meaning (some object) members name = some .object ∨
      meaning (some object) members name = some .parameter := by
  rw [Visible, not_and_or, not_not, not_not] at hidden
  rcases hidden with rfl | rfl
  · exact .inl meaning_object
  · by_cases same : object = text "buffer"
    · exact .inl (same ▸ meaning_object)
    · exact .inr (meaning_parameter same)

end Meanings

def numeral (letters : Text) : Option Int32 :=
  if letters ≠ [] ∧ letters.all Char.isDigit then
    some (Int32.ofNat (Nat.ofDigitChars 10 letters 0))
  else none

/-! `write_message` -/

structure WriteFrame where
  object : Option Text
  /-- The local variable, once `append` has set it on the string. -/
  writer : Option WriteBuffer

namespace WriteFrame

variable (host : BufferHost) (members : Members) (buffer : List UInt8)

def exec (frame : WriteFrame) : Statement → Option WriteFrame
  | .declare type name =>
      if frame.object = none ∧ type = text "CWriteBuffer" ∧ (members type).isNone then
        some ⟨some name, none⟩
      else none
  | .shiftLeft receiver argument =>
      match meaning frame.object members receiver, frame.writer,
        meaning frame.object members argument with
      | some .object, some writer, some (.member ⟨type, value⟩) =>
          some { frame with writer := some (writer.write host type value) }
      | _, _, _ => none
  | .call receiver method [argument] =>
      match meaning frame.object members receiver, meaning frame.object members argument with
      | some .object, some .parameter =>
          if method = text "append" then
            some { frame with writer := some (.onString buffer false) }
          else none
      | some .object, some (.member ⟨.string, str⟩) =>
          if method = text "write_data_from_string" then
            frame.writer.map fun writer =>
              { frame with writer := some (writer.writeDataFromString str) }
          else none
      | _, _ => none
  | _ => none

def run (statements : List Statement) : Option (List UInt8) :=
  (statements.foldlM (exec host members buffer) ⟨none, none⟩).bind fun frame =>
    frame.writer.map WriteBuffer.buffer

end WriteFrame

def writeMessage (host : BufferHost) (paramList : List LogicClassParamInfo) (members : Members) :
    Option (List UInt8) :=
  if Declares (text "write_message") paramList then
    (parse (writeMessageBody paramList)).bind (WriteFrame.run host members [])
  else none

/-! `read_message` -/

structure ReadFrame where
  object : Option Text
  reader : Option ReadBuffer
  members : Members

namespace ReadFrame

variable (host : BufferHost) (buffer : List UInt8)

def exec (frame : ReadFrame) : Statement → Option ReadFrame
  | .declare type name =>
      if frame.object = none ∧ type = text "CReadBuffer" ∧ (frame.members type).isNone then
        some { frame with object := some name }
      else none
  | .shiftRight receiver argument =>
      match meaning frame.object frame.members receiver, frame.reader,
        meaning frame.object frame.members argument with
      | some .object, some reader, some (.member ⟨type, held⟩) =>
          let (value, next) := reader.read host type held
          some { frame with
            reader := some next
            members := Function.update frame.members argument (some ⟨type, value⟩) }
      | _, _, _ => none
  | .call receiver method [argument] =>
      match meaning frame.object frame.members receiver,
        meaning frame.object frame.members argument with
      | some .object, some .parameter =>
          if method = text "append" then
            some { frame with reader := some (.onString buffer false) }
          else none
      | _, _ => none
  | .call receiver method [argument, length] =>
      match meaning frame.object frame.members receiver, frame.reader,
        meaning frame.object frame.members argument, numeral length with
      | some .object, some reader, some (.member ⟨.string, held⟩), some length =>
          if method = text "read_data_to_string" then
            let (bytes, next) := reader.readDataToString host length
            some { frame with
              reader := some next
              members := Function.update frame.members argument
                (some ⟨.string, List.append held bytes⟩) }
          else none
      | _, _, _, _ => none
  | _ => none

def run (statements : List Statement) (members : Members) : Option Members :=
  (statements.foldlM (exec host buffer) ⟨none, none, members⟩).map ReadFrame.members

end ReadFrame

def readMessage (host : BufferHost) (paramList : List LogicClassParamInfo) (buffer : List UInt8)
    (members : Members) : Option Members :=
  if Declares (text "read_message") paramList then
    (parse (readMessageBody paramList)).bind fun statements =>
      ReadFrame.run host buffer statements members
  else none

/-! The statements that the texts are. -/

def readStatement (param : LogicClassParamInfo) : Statement :=
  .shiftRight (text "read_buffer_") param.paramName

def writeStatement (receiver : Text) (param : LogicClassParamInfo) : Statement :=
  if param.paramSize = 0 then .shiftLeft (text "write_buffer_") param.paramName
  else .call receiver (text "write_data_from_string") [param.paramName]

def readStatements (paramList : List LogicClassParamInfo) : List Statement :=
  .declare (text "CReadBuffer") (text "read_buffer_") ::
    .call (text "read_buffer_") (text "append") [text "buffer"] :: paramList.map readStatement

def writeStatements (receiver : Text) (paramList : List LogicClassParamInfo) : List Statement :=
  .declare (text "CWriteBuffer") (text "write_buffer_") ::
    .call (text "write_buffer_") (text "append") [text "buffer"] ::
      paramList.map (writeStatement receiver)

section Texts

variable {param : LogicClassParamInfo}

theorem readLine_renders (named : IsWord param.paramName) (unsized : param.paramSize = 0) :
    Renders (readLine param) (readStatement param) := by
  simp only [readLine, readStatement, unsized, if_true]
  refine ⟨[.word (text "read_buffer_"), .symbol '>', .symbol '>', .word param.paramName],
    by simp, rfl, fun rest => ?_⟩
  simp only [List.append_assoc]
  change [.word (text "read_buffer_"), .symbol '>', .symbol '>'] ++
    lexFrom [] (param.paramName ++ ';' :: '\n' :: rest) = _
  rw [lexFrom_word named rfl]
  rfl

theorem writeLine_renders (named : IsWord param.paramName) :
    Renders (writeLine param) (writeStatement (text "twrite_buffer_") param) := by
  by_cases unsized : param.paramSize = 0
  · simp only [writeLine, writeStatement, unsized, if_true]
    refine ⟨[.word (text "write_buffer_"), .symbol '<', .symbol '<', .word param.paramName],
      by simp, rfl, fun rest => ?_⟩
    simp only [List.append_assoc]
    change [.word (text "write_buffer_"), .symbol '<', .symbol '<'] ++
      lexFrom [] (param.paramName ++ ';' :: '\n' :: rest) = _
    rw [lexFrom_word named rfl]
    rfl
  · simp only [writeLine, writeStatement, unsized, if_false]
    refine ⟨[.word (text "twrite_buffer_"), .symbol '.', .word (text "write_data_from_string"),
      .symbol '(', .word param.paramName, .symbol ')'], by simp, rfl, fun rest => ?_⟩
    simp only [List.append_assoc]
    change [.word (text "twrite_buffer_"), .symbol '.', .word (text "write_data_from_string"),
      .symbol '('] ++ lexFrom [] (param.paramName ++ ')' :: ';' :: '\n' :: rest) = _
    rw [lexFrom_word named rfl]
    rfl

theorem parse_readMessageBody {paramList : List LogicClassParamInfo}
    (named : ∀ param ∈ paramList, IsWord param.paramName)
    (unsized : ∀ param ∈ paramList, param.paramSize = 0) :
    parse (readMessageBody paramList) = some (readStatements paramList) := by
  have declared : Renders (text "\t\tCReadBuffer read_buffer_;\n")
      (.declare (text "CReadBuffer") (text "read_buffer_")) :=
    ⟨[.word (text "CReadBuffer"), .word (text "read_buffer_")], by simp, rfl, fun _ => rfl⟩
  have appended : Renders (text "\t\tread_buffer_.append(buffer);\n")
      (.call (text "read_buffer_") (text "append") [text "buffer"]) :=
    ⟨[.word (text "read_buffer_"), .symbol '.', .word (text "append"), .symbol '(',
      .word (text "buffer"), .symbol ')'], by simp, rfl, fun _ => rfl⟩
  have lines : parse (paramList.flatMap readLine) = some (paramList.map readStatement) :=
    parse_flatMap fun param listed => readLine_renders (named param listed) (unsized param listed)
  rw [readMessageBody, List.append_assoc, declared.parse_append, appended.parse_append, lines]
  rfl

theorem parse_writeMessageBody {paramList : List LogicClassParamInfo}
    (named : ∀ param ∈ paramList, IsWord param.paramName) :
    parse (writeMessageBody paramList) =
      some (writeStatements (text "twrite_buffer_") paramList) := by
  have declared : Renders (text "\t\tCWriteBuffer write_buffer_;\n")
      (.declare (text "CWriteBuffer") (text "write_buffer_")) :=
    ⟨[.word (text "CWriteBuffer"), .word (text "write_buffer_")], by simp, rfl, fun _ => rfl⟩
  have appended : Renders (text "\t\twrite_buffer_.append(buffer);\n")
      (.call (text "write_buffer_") (text "append") [text "buffer"]) :=
    ⟨[.word (text "write_buffer_"), .symbol '.', .word (text "append"), .symbol '(',
      .word (text "buffer"), .symbol ')'], by simp, rfl, fun _ => rfl⟩
  have lines : parse (paramList.flatMap writeLine) =
      some (paramList.map (writeStatement (text "twrite_buffer_"))) :=
    parse_flatMap fun param listed => writeLine_renders (named param listed)
  rw [writeMessageBody, List.append_assoc, declared.parse_append, appended.parse_append, lines]
  rfl

end Texts

end PssAsio.LogicMaker
