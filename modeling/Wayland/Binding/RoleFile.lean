import Wayland.Binding.Call
import Wayland.Binding.SharedFile

/-!
Contract: the text of a role package.

Owns: handle types, callback interfaces, conversions, methods, dispatch and the file around them.

Does not own: the values that methods send and callbacks get.
-/

namespace Wayland.Binding

/-- The handle type and, if messages are received, the callback interface. -/
def handleTypeLines
    (role : Role)
    (plan : RoleInterface) :
    Lines :=
  let layout := role.layout
  let typeName := plan.interface.typeName
  let name := plan.interface.name
  let methodText (callback : Callback) : String :=
    callback.name ++ "("
      ++ commaList (("o *" ++ typeName) :: callback.arguments.map (·.parameter.text)) ++ ") error"
  let methods := plan.callbacks.map fun callback =>
    callback.documentation.map commentLine ++ [methodText callback]
  documentation
      ((typeName ++ " is the " ++ role.label ++ " " ++ layout.noun ++ " of a " ++ name
          ++ " object.")
        :: if plan.interface.summary.isEmpty then [] else [plan.interface.summary ++ "."])
    ++ ["type " ++ typeName ++ " struct \x7b"]
    ++ indent 1 (alignRows
      (("obj", "*session.Object")
        :: if plan.callbacks.isEmpty then [] else [(layout.field, typeName ++ layout.callbacks)]))
    ++ ["\x7d"]
    ++ (if plan.callbacks.isEmpty then []
      else
        [""]
          ++ documentation
            [typeName ++ layout.callbacks ++ " receives the " ++ layout.received ++ "s of " ++ name
              ++ ". A non-nil",
              "error is returned from Session.Dispatch."]
          ++ ["type " ++ typeName ++ layout.callbacks ++ " interface \x7b"]
          ++ indent 1 (List.intercalate [""] methods) ++ ["\x7d"])

/-- The functions that turn objects into handles, and the accessors of a handle. -/
def conversionLines
    (role : Role)
    (shared : String)
    (plan : RoleInterface) :
    Lines :=
  let typeName := plan.interface.typeName
  let name := plan.interface.name
  let descriptor := shared ++ "." ++ plan.interface.descriptorName
  ["func as" ++ typeName ++ "(obj *session.Object) *" ++ typeName ++ " \x7b",
    "\tif obj == nil \x7b",
    "\t\treturn nil",
    "\t\x7d",
    "\tif h, ok := obj.Handler().(*" ++ typeName ++ "); ok \x7b",
    "\t\treturn h",
    "\t\x7d",
    "\th := &" ++ typeName ++ "\x7bobj: obj\x7d",
    "\tobj.SetHandler(h)",
    "\treturn h",
    "\x7d",
    ""]
    ++ documentation [typeName ++ "FromObject wraps obj, which must be bound to " ++ name ++ "."]
    ++ ["func " ++ typeName ++ "FromObject(obj *session.Object) (*" ++ typeName ++ ", error) \x7b",
    "\tif obj == nil || obj.Interface().Name != " ++ descriptor ++ ".Name \x7b",
    "\t\treturn nil, fmt.Errorf(\"%w: want " ++ name ++ "\", session.ErrWrongInterface)",
    "\t\x7d",
    "\treturn as" ++ typeName ++ "(obj), nil",
    "\x7d",
    ""]
    ++ documentation ["Bind" ++ typeName ++ " binds a well-known " ++ name ++ " object at id."]
    ++ ["func Bind" ++ typeName ++ "(s *session.Session, id wire.ObjectID, version uint32) (*"
      ++ typeName ++ ", error) \x7b",
    "\tobj, err := s.Bind(id, " ++ descriptor ++ ", version)",
    "\tif err != nil \x7b",
    "\t\treturn nil, err",
    "\t\x7d",
    "\treturn as" ++ typeName ++ "(obj), nil",
    "\x7d",
    "",
    "// Object returns the session object, or nil for a nil " ++ role.layout.noun ++ ".",
    "func (o *" ++ typeName ++ ") Object() *session.Object \x7b",
    "\tif o == nil \x7b",
    "\t\treturn nil",
    "\t\x7d",
    "\treturn o.obj",
    "\x7d",
    "",
    "// Version returns the negotiated version.",
    "func (o *" ++ typeName ++ ") Version() uint32 \x7b",
    "\tif o == nil \x7b",
    "\t\treturn 0",
    "\t\x7d",
    "\treturn o.obj.Version()",
    "\x7d"]

def setterLines
    (role : Role)
    (plan : RoleInterface) :
    Lines :=
  let layout := role.layout
  let typeName := plan.interface.typeName
  if plan.callbacks.isEmpty then []
  else
    ["",
      "// " ++ layout.setter ++ " installs the callbacks for incoming " ++ layout.received ++ "s.",
      "func (o *" ++ typeName ++ ") " ++ layout.setter ++ "(" ++ layout.field ++ " " ++ typeName
        ++ layout.callbacks ++ ") \x7b",
      "\to." ++ layout.field ++ " = " ++ layout.field,
      "\x7d"]

def methodLines
    (typeName : String)
    (method : Method) :
    Lines :=
  let call :=
    "session.Send("
      ++ commaList ("o.Object()" :: method.opcode :: method.values.map SentValue.text) ++ ")"
  [""] ++ documentation method.documentation
    ++ ["func (o *" ++ typeName ++ ") " ++ method.name ++ "("
      ++ commaList (method.parameters.map Parameter.text) ++ ") " ++ method.returned.types
      ++ " \x7b"]
    ++ (match method.returned.value? with
      | some value =>
          ["\tobjs, err := " ++ call,
            "\tif err != nil \x7b",
            "\t\treturn nil, err",
            "\t\x7d",
            "\treturn " ++ value ++ ", nil"]
      | none => ["\t_, err := " ++ call, "\treturn err"])
    ++ ["\x7d"]

def dispatchCaseLines
    (field : String)
    (callback : Callback) :
    Lines :=
  ["case " ++ callback.opcode ++ ":"]
    ++ callback.arguments.filterMap (fun incoming =>
      incoming.preparation.map fun (name, value) => "\t" ++ name ++ " := " ++ value.text)
    ++ ["\tif o." ++ field ++ " == nil \x7b",
      "\t\treturn nil",
      "\t\x7d",
      "\treturn o." ++ field ++ "." ++ callback.name ++ "("
        ++ commaList ("o" :: callback.arguments.map (·.value.text)) ++ ")"]

def dispatchLines
    (role : Role)
    (plan : RoleInterface) :
    Lines :=
  let layout := role.layout
  ["",
    "// Dispatch routes an incoming " ++ layout.received ++ " to the installed callbacks. It",
    "// implements session.Handler.",
    "func (o *" ++ plan.interface.typeName ++ ") Dispatch(in *session.Incoming) error \x7b"]
    ++ (if plan.callbacks.isEmpty then []
      else
        indent 1
          (["switch in.Opcode \x7b"] ++ plan.callbacks.flatMap (dispatchCaseLines layout.field)
            ++ ["\x7d"]))
    ++ ["\treturn fmt.Errorf(\"" ++ plan.interface.name ++ ": unknown " ++ layout.received
        ++ " opcode %d\", in.Opcode)",
      "\x7d"]

def roleInterfaceLines
    (plan : RolePlan)
    (interface : RoleInterface) :
    Lines :=
  [""] ++ handleTypeLines plan.role interface ++ [""]
    ++ conversionLines plan.role plan.protocol.package interface
    ++ setterLines plan.role interface
    ++ interface.methods.flatMap (methodLines interface.interface.typeName)
    ++ dispatchLines plan.role interface

def optionalStringLines : Lines :=
  ["",
    "func optString(s *string) wire.Arg \x7b",
    "\tif s == nil \x7b",
    "\t\treturn wire.NullString()",
    "\t\x7d",
    "\treturn wire.String(*s)",
    "\x7d",
    "",
    "func stringPtr(a wire.Arg) *string \x7b",
    "\tif a.Null \x7b",
    "\t\treturn nil",
    "\t\x7d",
    "\ts := a.String",
    "\treturn &s",
    "\x7d"]

/-- The package clause of a role: its label without the white space that may surround it. -/
def Role.packageText
    (role : Role) :
    String :=
  let isGap (char : Char) : Bool := char == ' ' || char == '\t' || char == '\r'
  String.ofList ((role.label.toList.dropWhile isGap).reverse.dropWhile isGap).reverse

def roleLines
    (runtime sharedPath : String)
    (plan : RolePlan) :
    Lines :=
  [generatedMark, commentLine ("Source: " ++ plan.protocol.name), ""]
    ++ documentation
      ["Package " ++ plan.role.label ++ " holds the " ++ plan.role.label ++ " side of the "
        ++ plan.protocol.name ++ " protocol."]
    ++ ["package " ++ plan.role.packageText,
    "",
    "import (",
    "\t\"fmt\"",
    "",
    "\t\"" ++ runtime ++ "/session\"",
    "\t\"" ++ runtime ++ "/wire\"",
    "",
    "\t\"" ++ sharedPath ++ "\"",
    ")"]
    ++ plan.interfaces.flatMap (roleInterfaceLines plan)
    ++ optionalStringLines

def roleIsValid
    (runtime sharedPath : String)
    (plan : RolePlan) :
    Bool :=
  isIdentifier plan.role.packageText && isCommentText plan.role.label
    && isCommentText plan.protocol.name && isStringBody runtime && isStringBody sharedPath
    && plan.declarations.all (fun declaration => isIdentifier declaration.name)
    && plan.interfaces.all (fun interface =>
      isIdentifier interface.interface.typeName
        && interface.methods.all (fun method =>
          isIdentifier method.name
            && method.parameters.all fun parameter => isIdentifier parameter.name)
        && interface.callbacks.all (fun callback =>
          isIdentifier callback.name
            && callback.arguments.all fun incoming => isIdentifier incoming.parameter.name))

def roleText?
    (runtime sharedPath : String)
    (plan : RolePlan) :
    Option String :=
  let text := fileText (roleLines runtime sharedPath plan)
  if roleIsValid runtime sharedPath plan && hasOnlySourceChars text then some text else none

end Wayland.Binding
