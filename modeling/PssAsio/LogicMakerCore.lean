import PssAsio.TextOccurrences

/-!
The generator of plugin sources, `Cread_logic_json_info`. Texts are lists of characters.
-/

namespace PssAsio.LogicMaker

open TextOccurrences

abbrev Text : Type := List Char

def text (literal : String) : Text := literal.toList

structure PluginProjectInfo where
  pluginProjectName : Text

structure LogicClassParamInfo where
  paramName : Text
  paramValue : Text
  paramSize : Int32

structure LogicClass where
  messageType : Text
  className : Text
  paramList : List LogicClassParamInfo

structure CommandInfo where
  commandMacro : Text
  commandId : Text
  commandFunction : Text
  messageIn : Text
  messageOut : Text

/-! `replace_all_distinct` and the files that are made from a template. -/

/-- `str.find(old_value, pos)`, where `none` is `npos`. -/
def findFrom (str oldValue : Text) (pos : Nat) : Option Nat :=
  if pos ≤ str.length then (find oldValue (str.drop pos)).map fun distance => pos + distance
  else none

def replaceAt (str : Text) (pos length : Nat) (newValue : Text) : Text :=
  str.take pos ++ (newValue ++ str.drop (pos + length))

/-- The loop of `replace_all_distinct`; `none` when it has not ended after `fuel` searches. -/
def replaceLoop (oldValue newValue : Text) : Nat → Text → Nat → Option Text
  | 0, _, _ => none
  | fuel + 1, str, pos =>
      match findFrom str oldValue pos with
      | none => some str
      | some found =>
          replaceLoop oldValue newValue fuel (replaceAt str found oldValue.length newValue)
            (if newValue.length > 0 then found + newValue.length else found)

variable (fuel : Nat)

def replaceAllDistinct (str oldValue newValue : Text) : Option Text :=
  replaceLoop oldValue newValue fuel str 0

structure Replacement where
  oldValue : Text
  newValue : Text

def fillTemplate (content : Text) (replacements : List Replacement) : Option Text :=
  replacements.foldlM (fun content replacement =>
    replaceAllDistinct fuel content replacement.oldValue replacement.newValue) content

/-- What a template is read from and a file written to. -/
structure TemplateSource where
  /-- Whether `create_logic_file` opens the new file. -/
  created : Bool
  template : Option Text
  /-- What the memory holds behind the buffer of `read_template_file`, which has no terminator. -/
  behind : Text

def readTemplateFile (source : TemplateSource) : Text :=
  match source.template with
  | none => []
  | some content => (content ++ source.behind).takeWhile fun char => char.toNat ≠ 0

/-- No file is left behind when it cannot be opened. -/
def makeFile (source : TemplateSource) (replacements : List Replacement) : Option (Option Text) :=
  if source.created = false then some none
  else (fillTemplate fuel (readTemplateFile source) replacements).map some

def indentedLines (lines : List Text) : Text :=
  lines.foldl (fun written line =>
    if written = [] then written ++ line else written ++ (text "\t" ++ line)) []

def commandParameters : Text :=
  text "(const CMessage_Source& source, std::shared_ptr<CMessage_Packet> recv_packet, " ++
    text "std::shared_ptr<CMessage_Packet> send_packet)"

variable (commandList : List CommandInfo)

def commandIdDefine : Text :=
  commandList.flatMap fun command =>
    if command.commandId ≠ [] then
      text "const uint16 " ++ command.commandMacro ++ text " = " ++ command.commandId ++ text ";\n"
    else []

def commandFuncDefine : Text :=
  indentedLines (commandList.map fun command =>
    text "void " ++ command.commandFunction ++ commandParameters ++ text ";\n")

variable (project : PluginProjectInfo)

def commandHReplacements (commandList : List CommandInfo) : List Replacement :=
  [⟨text "[include file]",
      text "#include \"" ++ project.pluginProjectName ++ text "_do_message.h\""⟩,
    ⟨text "[command id define]", commandIdDefine commandList⟩,
    ⟨text "[command class name]", project.pluginProjectName ++ text "_command"⟩,
    ⟨text "[command logic function define]", commandFuncDefine commandList⟩,
    ⟨text "[do message logic]",
      text "C" ++ project.pluginProjectName ++ text "_do_message do_logic;"⟩]

def makeCommandHFile (project : PluginProjectInfo) (commandList : List CommandInfo)
    (source : TemplateSource) : Option (Option Text) :=
  makeFile fuel source (commandHReplacements project commandList)

def commandBody (command : CommandInfo) : Text :=
  if command.messageIn ≠ [] ∧ command.messageOut ≠ [] then
    text "\t" ++ command.messageIn ++ text " recv;\n" ++
      text "\t" ++ command.messageOut ++ text " send;\n" ++
      text "\trecv.read_message(&recv_packet->buffer_);\n" ++
      text "\tdo_logic.do_message_" ++ command.commandMacro ++
      text "(source.connect_id_, recv_packet->command_id_, recv, send);\n" ++
      text "\tsend.write_message(&send_packet->buffer_);\n"
  else if command.messageIn ≠ [] ∧ command.messageOut = [] then
    text "\t" ++ command.messageIn ++ text " recv;\n" ++
      text "\trecv.read_message(&recv_packet->buffer_);\n" ++
      text "\tdo_logic.do_message_" ++ command.commandMacro ++
      text "(source.connect_id_, recv_packet->command_id_, recv);\n"
  else []

def commandFuncAchieve (commandList : List CommandInfo) : Text :=
  commandList.flatMap fun command =>
    text "void C" ++ project.pluginProjectName ++ text "_command" ++ text "::" ++
      command.commandFunction ++ commandParameters ++ text "\n" ++
      text "\x7b\n\t//do message logic\n" ++ commandBody command ++ text "\x7d\n\n"

def commandCppReplacements (commandList : List CommandInfo) : List Replacement :=
  [⟨text "[class name]", text "C" ++ project.pluginProjectName ++ text "_command"⟩,
    ⟨text "[command logic function achieve]", commandFuncAchieve project commandList⟩,
    ⟨text "[command head file]", project.pluginProjectName ++ text "_command.h"⟩,
    ⟨text "[do message logic init]", text "do_logic.set_frame_object(session_service);"⟩]

def makeCommandCppFile (project : PluginProjectInfo) (commandList : List CommandInfo)
    (source : TemplateSource) : Option (Option Text) :=
  makeFile fuel source (commandCppReplacements project commandList)

def regeditCommand : Text :=
  indentedLines (commandList.map fun command =>
    text "frame_object->Regedit_command(" ++ command.commandMacro ++ text ");\n")

def regeditCommandFunction : Text :=
  indentedLines (commandList.map fun command =>
    text "MESSAGE_FUNCTION(" ++ command.commandMacro ++ text ", base_command->" ++
      command.commandFunction ++ text ", source, recv_packet, send_packet);\n")

def logicPluginReplacements (commandList : List CommandInfo) : List Replacement :=
  [⟨text "[include command file head file]", project.pluginProjectName ++ text "_command.h"⟩,
    ⟨text "[command class name]", text "C" ++ project.pluginProjectName ++ text "_command"⟩,
    ⟨text "[register command id]", regeditCommand commandList⟩,
    ⟨text "[message map logic function]", regeditCommandFunction commandList⟩]

def makeLogicPluginCpp (project : PluginProjectInfo) (commandList : List CommandInfo)
    (source : TemplateSource) : Option (Option Text) :=
  makeFile fuel source (logicPluginReplacements project commandList)

def cmakeReplacements : List Replacement :=
  [⟨text "[plugin name]", project.pluginProjectName⟩]

def makeCmakeFile (project : PluginProjectInfo) (source : TemplateSource) : Option (Option Text) :=
  makeFile fuel source (cmakeReplacements project)

/-! `make_logic_class_file` -/

/-- `std::to_string` of a positive `int`. -/
def decimal (number : Nat) : Text := Nat.toDigits 10 number

def toStringInt (number : Int32) : Text :=
  if number < 0 then text "-" ++ decimal (-number.toInt).toNat else decimal number.toInt.toNat

variable (param : LogicClassParamInfo)

def readLine : Text :=
  if param.paramSize = 0 then text "\t\tread_buffer_ >> " ++ param.paramName ++ text ";\n"
  else
    text "\t\tread_buffer_ .read_data_to_string(" ++ param.paramName ++ text ", " ++
      toStringInt param.paramSize ++ text ");\n"

def writeLine : Text :=
  if param.paramSize = 0 then text "\t\twrite_buffer_ << " ++ param.paramName ++ text ";\n"
  else text "\t\ttwrite_buffer_ .write_data_from_string(" ++ param.paramName ++ text ");\n"

variable (paramList : List LogicClassParamInfo)

def readMessageBody : Text :=
  text "\t\tCReadBuffer read_buffer_;\n" ++ text "\t\tread_buffer_.append(buffer);\n" ++
    paramList.flatMap readLine

def writeMessageBody : Text :=
  text "\t\tCWriteBuffer write_buffer_;\n" ++ text "\t\twrite_buffer_.append(buffer);\n" ++
    paramList.flatMap writeLine

def memberLine : Text :=
  text "\t" ++ param.paramValue ++ text " " ++ param.paramName ++ text ";\n"

def messageMethod (classInfo : LogicClass) : Text :=
  if classInfo.messageType = text "Message Input" then
    text "public:\n" ++ text "\tvoid read_message(const std::string* buffer)\n" ++
      text "\t\x7b\n" ++ readMessageBody classInfo.paramList ++ text "\t\x7d\n"
  else
    text "public:\n" ++ text "\tvoid write_message(std::string* buffer)\n" ++
      text "\t\x7b\n" ++ writeMessageBody classInfo.paramList ++ text "\t\x7d\n"

def logicClassLines (classInfo : LogicClass) : Text :=
  if classInfo.messageType ≠ text "Message Input" ∧
      classInfo.messageType ≠ text "Message Output" then []
  else
    text "class " ++ classInfo.className ++ text "\n" ++ text "\x7b\n" ++
      messageMethod classInfo ++ text "public:\n" ++ classInfo.paramList.flatMap memberLine ++
      text "\x7d;\n\n"

def makeLogicClassFile (classList : List LogicClass) : Text :=
  text "#pragma once\n\n" ++ text "#include <string>\n" ++ text "#include \"ReadBuffer.hpp\"\n" ++
    text "#include \"WriteBuffer.hpp\"\n" ++ text "#include \"define.h\"\n\n" ++
    classList.flatMap logicClassLines

theorem messageMethod_listed {classList : List LogicClass} {classInfo : LogicClass}
    (listed : classInfo ∈ classList) (kind : classInfo.messageType = text "Message Input" ∨
      classInfo.messageType = text "Message Output") :
    messageMethod classInfo <:+: makeLogicClassFile classList := by
  have lines : messageMethod classInfo <:+: logicClassLines classInfo := by
    rw [logicClassLines, if_neg (by tauto)]
    exact List.infix_append_of_infix_left (List.infix_append_of_infix_left
      (List.infix_append_of_infix_left (List.suffix_append _ _).isInfix))
  have placed : logicClassLines classInfo <:+: classList.flatMap logicClassLines :=
    List.infix_of_mem_flatten (List.mem_map_of_mem listed)
  exact lines.trans (placed.trans (List.suffix_append _ _).isInfix)

/-- The bodies stand in the file as they are carried out below. -/
theorem bodies_infix {classList : List LogicClass} {classInfo : LogicClass}
    (listed : classInfo ∈ classList) :
    (classInfo.messageType = text "Message Input" →
      readMessageBody classInfo.paramList <:+: makeLogicClassFile classList) ∧
    (classInfo.messageType = text "Message Output" →
      writeMessageBody classInfo.paramList <:+: makeLogicClassFile classList) := by
  constructor
  · intro input
    refine List.IsInfix.trans ?_ (messageMethod_listed listed (.inl input))
    rw [messageMethod, if_pos input]
    exact List.infix_append_of_infix_left (List.suffix_append _ _).isInfix
  · intro output
    have other : text "Message Output" ≠ text "Message Input" := by decide
    refine List.IsInfix.trans ?_ (messageMethod_listed listed (.inr output))
    rw [messageMethod, output, if_neg other]
    exact List.infix_append_of_infix_left (List.suffix_append _ _).isInfix

end PssAsio.LogicMaker
