import PssAsio.LogicMakerBodies

/-!
Whether the two generated bodies match.
-/

namespace PssAsio.LogicMaker

open GeneratedText Function

structure IsIdentifier (name : Text) : Prop extends IsWord name where
  start : name.head?.any Char.isDigit = false

/-- The value that is written, and the value that the member holds before it is read. -/
structure MessageField where
  param : LogicClassParamInfo
  value : BufferField
  named : IsIdentifier param.paramName
  typed : memberType param.paramValue = some value.type

structure MessageFields where
  list : List MessageField
  distinct : (list.map fun field => field.param.paramName).Nodup

namespace MessageField

variable (field : MessageField)

abbrev name : Text := field.param.paramName

def writtenMember : Sigma FieldType.Value :=
  ⟨field.value.type, field.value.written⟩

def heldMember : Sigma FieldType.Value :=
  ⟨field.value.type, field.value.held⟩

end MessageField

def membersOf (content : MessageField → Sigma FieldType.Value) (fields : List MessageField) :
    Members :=
  fun name => (fields.find? fun field => field.name = name).map content

theorem membersOf_name {content : MessageField → Sigma FieldType.Value}
    {fields : List MessageField} (distinct : (fields.map MessageField.name).Nodup)
    {field : MessageField} (listed : field ∈ fields) :
    membersOf content fields field.name = some (content field) := by
  induction fields with
  | nil => cases listed
  | cons first rest ih =>
    rw [List.map_cons, List.nodup_cons] at distinct
    rcases List.mem_cons.mp listed with rfl | later
    · simp [membersOf]
    · have other : first.name ≠ field.name :=
        fun same => distinct.1 (same ▸ List.mem_map_of_mem later)
      simpa [membersOf, other] using ih distinct.2 later

theorem membersOf_isNone {content : MessageField → Sigma FieldType.Value}
    {fields : List MessageField} {name : Text} :
    (membersOf content fields name).isNone ↔ ∀ field ∈ fields, field.name ≠ name := by
  simp [membersOf]

namespace MessageFields

variable (fields : MessageFields)

def params : List LogicClassParamInfo :=
  fields.list.map MessageField.param

def values : List BufferField := fields.list.map MessageField.value

def written : Members :=
  membersOf MessageField.writtenMember fields.list

def held : Members := membersOf MessageField.heldMember fields.list

def ReadBack (host : BufferHost) (fields : MessageFields) (bytes : List UInt8) : Prop :=
  ∃ members, readMessage host fields.params bytes fields.held = some members ∧
    ∀ field ∈ fields.list, members field.name = some field.writtenMember

/-- The names that a field cannot have. -/
def takenNames : List Text :=
  keywords ++ [text "read_message", text "write_message", text "buffer", text "CReadBuffer",
    text "read_buffer_", text "CWriteBuffer", text "write_buffer_"] ++
    fields.params.map LogicClassParamInfo.paramValue

/-- The name can be used in the class and in the body of the method. -/
structure Usable (method type object name : Text) : Prop where
  declared : name ∉ keywords ∧ name ≠ method ∧
    name ∉ fields.params.map LogicClassParamInfo.paramValue
  other : name ≠ type
  visible : Visible object name

abbrev Writable : Text → Prop :=
  fields.Usable (text "write_message") (text "CWriteBuffer") (text "write_buffer_")

abbrev Readable : Text → Prop :=
  fields.Usable (text "read_message") (text "CReadBuffer") (text "read_buffer_")

theorem not_mem_takenNames {name : Text} :
    name ∉ fields.takenNames ↔ fields.Writable name ∧ fields.Readable name := by
  simp only [takenNames, List.mem_append, List.mem_cons, List.not_mem_nil, or_false, not_or]
  constructor
  · rintro ⟨⟨free, read, write, parameter, reader, input, writer, output⟩, untyped⟩
    exact ⟨⟨⟨free, write, untyped⟩, writer, output, parameter⟩,
      ⟨⟨free, read, untyped⟩, reader, input, parameter⟩⟩
  · rintro ⟨⟨⟨free, write, untyped⟩, writer, output, parameter⟩,
      ⟨⟨_, read, _⟩, reader, input, _⟩⟩
    exact ⟨⟨free, read, write, parameter, reader, input, writer, output⟩, untyped⟩

theorem declares_iff (method : Text) : Declares method fields.params ↔
    ∀ field ∈ fields.list, field.name ∉ keywords ∧ field.name ≠ method ∧
      field.name ∉ fields.params.map LogicClassParamInfo.paramValue :=
  List.forall_mem_map

end MessageFields

/-! Writing -/

namespace WriteFrame

variable {host : BufferHost} {members : Members} {buffer : List UInt8} {frame next : WriteFrame}
  {writer : WriteBuffer} {field : MessageField}

theorem exec_object {statement : Statement} {name : Text} (declared : frame.object = some name)
    (executed : frame.exec host members buffer statement = some next) :
    next.object = some name := by
  unfold exec at executed
  split at executed
  · simp [declared] at executed
  · split at executed
    · cases executed
      exact declared
    · cases executed
  · split at executed
    · split at executed
      · cases executed
        exact declared
      · cases executed
    · split at executed
      · obtain ⟨writer, -, rfl⟩ := Option.map_eq_some_iff.mp executed
        exact declared
      · cases executed
    · cases executed
  · cases executed

theorem exec_writeStatement (declared : frame.object = some (text "write_buffer_"))
    (attached : frame.writer = some writer)
    (member : members field.name = some field.writtenMember)
    (visible : Visible (text "write_buffer_") field.name) (unsized : field.param.paramSize = 0)
    (receiver : Text) :
    frame.exec host members buffer (writeStatement receiver field.param) =
      some { frame with
        writer := some (writer.write host field.value.type field.value.written) } := by
  have argument : meaning (some (text "write_buffer_")) members field.name =
      some (.member field.writtenMember) := by
    rw [meaning_member visible, member, Option.map_some]
  simp only [writeStatement, unsized, if_true, exec, declared, meaning_object, attached, argument,
    MessageField.writtenMember]

/-- The sized strings are written through a variable that the body does not declare. -/
theorem exec_writeStatement_sized (declared : frame.object = some (text "write_buffer_"))
    {param : LogicClassParamInfo} (sized : param.paramSize ≠ 0) :
    frame.exec host members buffer (writeStatement (text "twrite_buffer_") param) = none := by
  have other : text "twrite_buffer_" ≠ text "write_buffer_" := by decide
  simp only [writeStatement, sized, if_false, exec, declared]
  split
  · rename_i found _
    exact absurd (object_of_meaning found) other
  · rename_i found _
    exact absurd (object_of_meaning found) other
  · rfl

theorem exec_writeStatement_hidden (declared : frame.object = some (text "write_buffer_"))
    {param : LogicClassParamInfo} (unsized : param.paramSize = 0) (receiver : Text)
    (hidden : ¬Visible (text "write_buffer_") param.paramName) :
    frame.exec host members buffer (writeStatement receiver param) = none := by
  rcases meaning_of_hidden members hidden with argument | argument
  all_goals simp [writeStatement, unsized, exec, declared, argument]

theorem writes {fields : List MessageField} (declared : frame.object = some (text "write_buffer_"))
    (attached : frame.writer = some writer)
    (known : ∀ field ∈ fields, members field.name = some field.writtenMember)
    (usable : ∀ field ∈ fields, Visible (text "write_buffer_") field.name ∧
      field.param.paramSize = 0) (receiver : Text) :
    ((fields.map MessageField.param).map (writeStatement receiver)).foldlM
        (exec host members buffer) frame =
      some { frame with
        writer := some (writer.writeFields host (fields.map MessageField.value)) } := by
  induction fields generalizing frame writer with
  | nil =>
    change some frame = some { frame with writer := some writer }
    rw [← attached]
  | cons field rest ih =>
    rw [List.forall_mem_cons] at known usable
    have executed : frame.exec host members buffer (writeStatement receiver field.param) =
        some { frame with
          writer := some (writer.write host field.value.type field.value.written) } :=
      exec_writeStatement declared attached known.1 usable.1.1 usable.1.2 receiver
    simp only [List.map_cons, List.foldlM_cons, executed]
    exact ih declared rfl known.2 usable.2

theorem run_writeStatements (receiver : Text) (paramList : List LogicClassParamInfo) :
    run host members buffer (writeStatements receiver paramList) =
      if (members (text "CWriteBuffer")).isNone then
        ((paramList.map (writeStatement receiver)).foldlM (exec host members buffer)
          ⟨some (text "write_buffer_"), some (.onString buffer false)⟩).bind fun frame =>
            frame.writer.map WriteBuffer.buffer
      else none := by
  have notParameter : text "write_buffer_" ≠ text "buffer" := by decide
  by_cases free : (members (text "CWriteBuffer")).isNone
  · simp [run, writeStatements, exec, meaning_parameter notParameter, free]
  · simp [run, writeStatements, exec, free]

end WriteFrame

/-! Reading -/

namespace ReadFrame

variable {host : BufferHost} {buffer : List UInt8} {frame next : ReadFrame}
  {reader : ReadBuffer} {field : MessageField}

theorem exec_object {statement : Statement} {name : Text} (declared : frame.object = some name)
    (executed : frame.exec host buffer statement = some next) : next.object = some name := by
  unfold exec at executed
  split at executed
  · simp [declared] at executed
  · split at executed
    · cases executed
      exact declared
    · cases executed
  · split at executed
    · split at executed
      · cases executed
        exact declared
      · cases executed
    · cases executed
  · split at executed
    · split at executed
      · cases executed
        exact declared
      · cases executed
    · cases executed
  · cases executed

theorem exec_readStatement (declared : frame.object = some (text "read_buffer_"))
    (attached : frame.reader = some reader)
    (member : frame.members field.name = some field.heldMember)
    (visible : Visible (text "read_buffer_") field.name) {value : field.value.type.Value}
    {after : ReadBuffer}
    (read : reader.read host field.value.type field.value.held = (value, after)) :
    frame.exec host buffer (readStatement field.param) = some { frame with
      reader := some after
      members := update frame.members field.name (some ⟨field.value.type, value⟩) } := by
  have argument : meaning (some (text "read_buffer_")) frame.members field.name =
      some (.member field.heldMember) := by
    rw [meaning_member visible, member, Option.map_some]
  simp only [readStatement, exec, declared, meaning_object, attached, argument,
    MessageField.heldMember, read]

theorem exec_readStatement_hidden (declared : frame.object = some (text "read_buffer_"))
    {param : LogicClassParamInfo}
    (hidden : ¬Visible (text "read_buffer_") param.paramName) :
    frame.exec host buffer (readStatement param) = none := by
  rcases meaning_of_hidden frame.members hidden with argument | argument
  all_goals simp [readStatement, exec, declared, argument]

/-- In front of the bytes of the fields all of them return or not. -/
theorem reads {fields : List MessageField} (distinct : (fields.map MessageField.name).Nodup)
    (declared : frame.object = some (text "read_buffer_")) (attached : frame.reader = some reader)
    (known : ∀ field ∈ fields, frame.members field.name = some field.heldMember)
    (visible : ∀ field ∈ fields, Visible (text "read_buffer_") field.name)
    (faces : reader.Faces host false
      (encodeFields host.order false (fields.map MessageField.value))) :
    ∃ last, ((fields.map MessageField.param).map readStatement).foldlM (exec host buffer) frame =
        some last ∧
      (∀ name ∉ fields.map MessageField.name, last.members name = frame.members name) ∧
      ((∀ field ∈ fields, last.members field.name = some field.writtenMember) ↔
        ∀ field ∈ fields, field.value.Returns) := by
  induction fields generalizing frame reader with
  | nil => exact ⟨frame, rfl, fun _ _ => rfl, by simp⟩
  | cons field rest ih =>
    rw [List.map_cons, List.nodup_cons] at distinct
    rw [List.forall_mem_cons] at known visible
    rw [List.map_cons, encodeFields_cons] at faces
    obtain ⟨value, after, read, -, ahead, returned⟩ := ReadBuffer.read_encoded field.value faces
    have executed : frame.exec host buffer (readStatement field.param) = _ :=
      exec_readStatement declared attached known.1 visible.1 read
    let next : ReadFrame := { frame with
      reader := some after
      members := update frame.members field.name (some ⟨field.value.type, value⟩) }
    have declaredStill : next.object = some (text "read_buffer_") := declared
    have knownStill : ∀ other ∈ rest, next.members other.name = some other.heldMember := by
      intro other listed
      have apart : other.name ≠ field.name :=
        fun same => distinct.1 (same ▸ List.mem_map_of_mem listed)
      exact (update_of_ne apart _ _).trans (known.2 other listed)
    obtain ⟨last, ran, frameRule, returnedRest⟩ :=
      ih distinct.2 declaredStill rfl knownStill visible.2 ahead
    refine ⟨last, ?_, ?_, ?_⟩
    · simp only [List.map_cons, List.foldlM_cons, executed]
      exact ran
    · intro name unlisted
      rw [List.map_cons, List.mem_cons, not_or] at unlisted
      exact (frameRule name unlisted.2).trans (update_of_ne unlisted.1 _ _)
    · have entry : last.members field.name = some ⟨field.value.type, value⟩ :=
        (frameRule field.name distinct.1).trans (update_self _ _ _)
      rw [List.forall_mem_cons, List.forall_mem_cons, returnedRest, ← returned, entry]
      simp [MessageField.writtenMember]

theorem run_readStatements (paramList : List LogicClassParamInfo) (members : Members) :
    run host buffer (readStatements paramList) members =
      if (members (text "CReadBuffer")).isNone then
        ((paramList.map readStatement).foldlM (exec host buffer)
          ⟨some (text "read_buffer_"), some (.onString buffer false), members⟩).map
            ReadFrame.members
      else none := by
  have notParameter : text "read_buffer_" ≠ text "buffer" := by decide
  by_cases free : (members (text "CReadBuffer")).isNone
  · simp [run, readStatements, exec, meaning_parameter notParameter, free]
  · simp [run, readStatements, exec, free]

end ReadFrame

/-! Both bodies -/

namespace MessageFields

variable {fields : MessageFields} {host : BufferHost} {bytes : List UInt8}

theorem params_named : ∀ param ∈ fields.params, IsWord param.paramName :=
  List.forall_mem_map.mpr fun field _ => field.named.toIsWord

theorem writeMessage_of_writable
    (writable : ∀ field ∈ fields.list, fields.Writable field.name ∧ field.param.paramSize = 0) :
    writeMessage host fields.params fields.written =
      some (encodeFields host.order false fields.values) := by
  have declares : Declares (text "write_message") fields.params :=
    (fields.declares_iff _).mpr fun field listed => (writable field listed).1.declared
  have free : (fields.written (text "CWriteBuffer")).isNone :=
    membersOf_isNone.mpr fun field listed => (writable field listed).1.other
  have wrote : (fields.params.map (writeStatement (text "twrite_buffer_"))).foldlM
      (WriteFrame.exec host fields.written [])
        ⟨some (text "write_buffer_"), some (.onString [] false)⟩ = _ :=
    WriteFrame.writes rfl rfl (fun field listed => membersOf_name fields.distinct listed)
      (fun field listed => ⟨(writable field listed).1.visible, (writable field listed).2⟩) _
  have content := WriteBuffer.writeFields_buffer host (.onString [] false) fields.values
  have unsorted : host.sorts (WriteBuffer.onString [] false).isNetSort = false :=
    Bool.and_false _
  rw [unsorted] at content
  rw [writeMessage, if_pos declares, parse_writeMessageBody params_named, Option.bind_some,
    WriteFrame.run_writeStatements, if_pos free, wrote]
  exact congrArg some content

theorem writable_of_writeMessage
    (ran : writeMessage host fields.params fields.written = some bytes) :
    ∀ field ∈ fields.list, fields.Writable field.name ∧ field.param.paramSize = 0 := by
  simp only [writeMessage, parse_writeMessageBody params_named, Option.bind_some,
    WriteFrame.run_writeStatements, Option.ite_none_right_eq_some] at ran
  obtain ⟨declares, free, ran⟩ := ran
  obtain ⟨last, carried, -⟩ := Option.bind_eq_some_iff.mp ran
  have kept (frame : WriteFrame) (statement : Statement) (next : WriteFrame)
      (before : frame.object = some (text "write_buffer_")) :
      frame.exec host fields.written [] statement = some next →
        next.object = some (text "write_buffer_") := WriteFrame.exec_object before
  intro field listed
  obtain ⟨frame, next, declared, executed⟩ := executes_of_foldlM kept carried rfl _
    (List.mem_map_of_mem (List.mem_map_of_mem listed))
  have unsized : field.param.paramSize = 0 := by
    by_contra sized
    rw [WriteFrame.exec_writeStatement_sized declared sized] at executed
    cases executed
  refine ⟨⟨(fields.declares_iff _).mp declares field listed, membersOf_isNone.mp free field listed,
    ?_⟩, unsized⟩
  by_contra hidden
  rw [WriteFrame.exec_writeStatement_hidden declared unsized _ hidden] at executed
  cases executed

section Reading

variable (unsized : ∀ field ∈ fields.list, field.param.paramSize = 0)

include unsized

theorem readMessage_eq (buffer : List UInt8) :
    readMessage host fields.params buffer fields.held =
      if Declares (text "read_message") fields.params ∧
        (fields.held (text "CReadBuffer")).isNone then
        ((fields.params.map readStatement).foldlM (ReadFrame.exec host buffer)
          ⟨some (text "read_buffer_"), some (.onString buffer false), fields.held⟩).map
            ReadFrame.members
      else none := by
  rw [readMessage, parse_readMessageBody params_named (List.forall_mem_map.mpr unsized),
    Option.bind_some, ReadFrame.run_readStatements, ite_and]

theorem readable_of_readBack (read : fields.ReadBack host bytes) :
    ∀ field ∈ fields.list, fields.Readable field.name := by
  obtain ⟨members, ran, -⟩ := read
  rw [readMessage_eq unsized, Option.ite_none_right_eq_some] at ran
  obtain ⟨⟨declares, free⟩, ran⟩ := ran
  obtain ⟨last, carried, -⟩ := Option.map_eq_some_iff.mp ran
  have kept (frame : ReadFrame) (statement : Statement) (next : ReadFrame)
      (before : frame.object = some (text "read_buffer_")) :
      frame.exec host bytes statement = some next →
        next.object = some (text "read_buffer_") := ReadFrame.exec_object before
  intro field listed
  refine ⟨(fields.declares_iff _).mp declares field listed, membersOf_isNone.mp free field listed,
    ?_⟩
  by_contra hidden
  obtain ⟨frame, next, declared, executed⟩ := executes_of_foldlM kept carried rfl _
    (List.mem_map_of_mem (List.mem_map_of_mem listed))
  rw [ReadFrame.exec_readStatement_hidden declared hidden] at executed
  cases executed

theorem readBack_iff_returns (short : (encodeFields host.order false fields.values).length < 2 ^ 31)
    (readable : ∀ field ∈ fields.list, fields.Readable field.name) :
    fields.ReadBack host (encodeFields host.order false fields.values) ↔
      ∀ field ∈ fields.list, field.value.Returns := by
  have declares : Declares (text "read_message") fields.params :=
    (fields.declares_iff _).mpr fun field listed => (readable field listed).declared
  have free : (fields.held (text "CReadBuffer")).isNone :=
    membersOf_isNone.mpr fun field listed => (readable field listed).other
  let reader := ReadBuffer.onString (encodeFields host.order false fields.values) false
  let start : ReadFrame := ⟨some (text "read_buffer_"), some reader, fields.held⟩
  have declared : start.object = some (text "read_buffer_") := rfl
  have faces : reader.Faces host false (encodeFields host.order false fields.values) :=
    ⟨ReadBuffer.onString_inside short false, rfl, Bool.and_false _⟩
  obtain ⟨last, ran, -, returned⟩ := ReadFrame.reads fields.distinct declared rfl
    (fun field listed => membersOf_name fields.distinct listed)
    (fun field listed => (readable field listed).visible) faces
  have read : readMessage host fields.params (encodeFields host.order false fields.values)
      fields.held = some last.members := by
    rw [readMessage_eq unsized, if_pos ⟨declares, free⟩]
    exact congrArg (Option.map ReadFrame.members) ran
  constructor
  · rintro ⟨members, same, restored⟩
    cases read.symm.trans same
    exact returned.mp restored
  · intro returns
    exact ⟨last.members, read, returned.mpr returns⟩

end Reading

/-- The two bodies match exactly if no field has a `buffer_length` or a name that the class or the
bodies use otherwise, and no empty string meets a member that is not empty. -/
theorem generated_bodies_match_iff (host : BufferHost) (fields : MessageFields)
    (short : ∀ bytes, writeMessage host fields.params fields.written = some bytes →
      bytes.length < 2 ^ 31) :
    (∃ bytes, writeMessage host fields.params fields.written = some bytes ∧
        fields.ReadBack host bytes) ↔
      ∀ field ∈ fields.list, field.param.paramSize = 0 ∧ field.name ∉ fields.takenNames ∧
        field.value.Returns := by
  simp only [not_mem_takenNames]
  constructor
  · rintro ⟨bytes, ran, read⟩ field listed
    have writable := writable_of_writeMessage ran
    have unsized : ∀ field ∈ fields.list, field.param.paramSize = 0 :=
      fun field listed => (writable field listed).2
    have readable := readable_of_readBack unsized read
    cases (writeMessage_of_writable writable).symm.trans ran
    exact ⟨unsized field listed, ⟨(writable field listed).1, readable field listed⟩,
      (readBack_iff_returns unsized (short _ ran) readable).mp read field listed⟩
  · intro kept
    have unsized : ∀ field ∈ fields.list, field.param.paramSize = 0 :=
      fun field listed => (kept field listed).1
    have ran : writeMessage host fields.params fields.written = _ :=
      writeMessage_of_writable fun field listed =>
        ⟨(kept field listed).2.1.1, unsized field listed⟩
    exact ⟨_, ran, (readBack_iff_returns unsized (short _ ran)
      fun field listed => (kept field listed).2.1.2).mpr fun field listed =>
        (kept field listed).2.2⟩

end MessageFields

def versionField : MessageField where
  param := ⟨text "message_version_", text "uint16", 0⟩
  value := ⟨.number .uint16, 0x0102#16, 0#16⟩
  named := ⟨⟨by decide, by decide⟩, by decide⟩
  typed := by decide

theorem session_named : IsIdentifier (text "message_session_") :=
  ⟨⟨by decide, by decide⟩, by decide⟩

def sessionField (size : Int32) : MessageField where
  param := ⟨text "message_session_", text "string", size⟩
  value := ⟨.string, [0x61], []⟩
  named := session_named
  typed := rfl

def plainMessage : MessageFields where
  list := [sessionField 0, versionField]
  distinct := by decide

def sizedMessage : MessageFields where
  list := [sessionField 32, versionField]
  distinct := by decide

theorem plain_message_matches :
    ∃ bytes, writeMessage sortingHost plainMessage.params plainMessage.written = some bytes ∧
      plainMessage.ReadBack sortingHost bytes := by
  have written : writeMessage sortingHost plainMessage.params plainMessage.written =
      some [1, 0, 0, 0, 0x61, 2, 1] := by decide
  refine (MessageFields.generated_bodies_match_iff sortingHost plainMessage ?_).mpr ?_
  · intro bytes ran
    rw [written] at ran
    cases ran
    decide
  · intro field listed
    simp only [plainMessage, List.mem_cons, List.not_mem_nil, or_false] at listed
    rcases listed with rfl | rfl
    · exact ⟨rfl, by decide, fun _ => rfl⟩
    · exact ⟨rfl, by decide, trivial⟩

def stringBytes : Sigma FieldType.Value → List UInt8
  | ⟨.string, str⟩ => str
  | ⟨.number _, _⟩ => []

/-- With a `buffer_length` of 32 the body of `write_message` does not compile. -/
theorem sized_message_does_not_match :
    writeMessage sortingHost sizedMessage.params sizedMessage.written = none ∧
    WriteFrame.run sortingHost sizedMessage.written []
        (writeStatements (text "write_buffer_") sizedMessage.params) = some [0x61, 2, 1] ∧
      ((readMessage sortingHost sizedMessage.params [0x61, 2, 1] sizedMessage.held).bind
        fun members => (members (text "message_session_")).map stringBytes) =
          some [0x61, 2, 1] := by
  decide

end PssAsio.LogicMaker
