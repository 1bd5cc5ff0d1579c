import Wayland.Proofs.Binding.Declared
import Wayland.Proofs.Check.Exact

/-!
Contract: what both ends of a message make of its arguments.

Owns:
- what the runtime offers for a kind: a type, a constructor and a field;
- the types that a document declares for arguments, and the conversions to them and back;
- the parameters, values and results of the method that sends a message, and the parameters and
  values of the callback that receives it.

Does not own: the text of methods and callbacks.
-/

namespace Wayland.Binding

open Wayland.Model

/-! ## What the runtime offers for an argument -/

/-- The type that the values of an argument have by themselves. -/
def plainType
    (arg : Arg) :
    String :=
  match arg.kind with
  | .int => "int32"
  | .uint => "uint32"
  | .fixed => "wire.Fixed"
  | .string => if arg.nullable then "*string" else "string"
  | .object | .newId => "*session.Object"
  | .array => "[]byte"
  | .fd => "int"
  | .unassigned _ => ""

/-- The function that makes the value of an argument for a message. -/
def constructorName
    (arg : Arg) :
    String :=
  match arg.kind with
  | .int => "wire.Int"
  | .uint => "wire.Uint"
  | .fixed => "wire.FixedArg"
  | .string => if arg.nullable then "optString" else "wire.String"
  | .object => "session.Ref"
  | .newId => if arg.interface = "" then "wire.DynamicNewID" else "wire.NewID"
  | .array => "wire.Array"
  | .fd => "wire.FD"
  | .unassigned _ => ""

/-- The field that holds the value of a received argument.  Objects are looked up instead. -/
def fieldName? : Wire.Kind → Option String
  | .int => some "Int"
  | .uint => some "Uint"
  | .fixed => some "Fixed"
  | .string => some "String"
  | .array => some "Array"
  | .fd => some "FD"
  | .object | .newId | .unassigned _ => none

def receivedText
    (arg : Arg)
    (index : Nat) :
    String :=
  match fieldName? arg.kind with
  | none => "in.Object(" ++ toString index ++ ")"
  | some field =>
      if arg.kind = .string ∧ arg.nullable then "stringPtr(in.Args[" ++ toString index ++ "])"
      else "in.Args[" ++ toString index ++ "]." ++ field

def holdsObject
    (arg : Arg) :
    Bool :=
  arg.kind = .object ∨ arg.kind = .newId

/-- What the value of an argument is read from: the value itself, or that of its variable. -/
def Incoming.source
    (incoming : Incoming) :
    ReceivedValue :=
  (incoming.preparation.map (·.2)).getD incoming.value

namespace Context

variable (context : Context)

/-! ## What the document declares for an argument -/

/-- The enumeration of a number, or the handle of an object. -/
def declaredType?
    (arg : Arg) :
    Option String :=
  match arg.kind with
  | .int | .uint => context.enumerationType? arg
  | .object | .newId => context.handleType? arg.interface
  | _ => none

def typeText
    (arg : Arg) :
    String :=
  match context.declaredType? arg with
  | none => plainType arg
  | some typeName => if holdsObject arg then "*" ++ typeName else typeName

/-- A value of the plain type, as one of the type of the parameter. -/
def typed
    (arg : Arg)
    (value : String) :
    String :=
  match context.declaredType? arg with
  | none => value
  | some typeName =>
      if holdsObject arg then "as" ++ typeName ++ "(" ++ value ++ ")"
      else typeName ++ "(" ++ value ++ ")"

/-- A value of the type of the parameter, as one of the plain type. -/
def untyped
    (arg : Arg)
    (value : String) :
    String :=
  match context.declaredType? arg with
  | none => value
  | some _ =>
      if holdsObject arg then value ++ ".Object()" else plainType arg ++ "(" ++ value ++ ")"

def parameter
    (arg : Arg) :
    Parameter :=
  ⟨localName context.reserved arg.name, context.typeText arg⟩

/-- The parameters that tell what object to make: none, or the interface and the version where the
argument leaves them open. -/
def requested
    (arg : Arg) :
    List Parameter :=
  if arg.interface = "" then
    [⟨localName context.reserved (arg.name ++ "_interface"), "string"⟩,
      ⟨localName context.reserved (arg.name ++ "_version"), "uint32"⟩]
  else []

/-- What the constructor of an argument is applied to.  A new object has the id zero. -/
def operands
    (arg : Arg) :
    List String :=
  if arg.kind = .newId then (context.requested arg).map (·.name) ++ ["0"]
  else [context.untyped arg (localName context.reserved arg.name)]

/-- The value that a method sends for an argument. -/
def sentText
    (arg : Arg) :
    String :=
  constructorName arg ++ "(" ++ commaList (context.operands arg) ++ ")"

/-- What a method returns for an argument that makes an object. -/
def made
    (arg : Arg) :
    Returned :=
  match context.declaredType? arg with
  | some typeName => .handle typeName
  | none => .object

/-- Whether the case of a callback reads an argument into a variable: a new object with a handle. -/
def isPrepared
    (arg : Arg) :
    Bool :=
  arg.kind = .newId ∧ (context.declaredType? arg).isSome

theorem made_ne_nothing
    (arg : Arg) :
    context.made arg ≠ .nothing := by
  unfold made
  split <;> simp

/-- A new object is returned in the type of a parameter for it. -/
theorem made_text
    {arg : Arg}
    (makes : arg.kind = .newId) :
    (context.made arg).types = "(" ++ context.typeText arg ++ ", error)" ∧
      (context.made arg).value? = some (context.typed arg "objs[0]") := by
  unfold made typeText typed plainType holdsObject
  cases context.declaredType? arg with
  | none => simp [makes, Returned.types, Returned.value?]
  | some typeName =>
      simp only [makes, Returned.types, Returned.value?]
      constructor
      · exact String.toList_inj.mp (by simp)
      · refine congrArg some (String.toList_inj.mp ?_)
        simp

/-! ## Both ends of an argument -/

variable {context} {arg : Arg}

/-- A method has the parameter for an argument, or those that tell what object to make. -/
theorem outgoing_parameters
    (known : HasKind arg) :
    (context.outgoing arg).parameters =
      if arg.kind = .newId then context.requested arg else [context.parameter arg] := by
  have named := known.named
  unfold outgoing parameter typeText declaredType? plainType holdsObject
  cases kind : arg.kind with
  | int | uint => cases context.enumerationType? arg <;> simp
  | object => cases context.handleType? arg.interface <;> simp
  | newId =>
      unfold requested
      cases context.handleType? arg.interface <;> by_cases isOpen : arg.interface = "" <;>
        simp [isOpen]
  | string => cases arg.nullable <;> simp
  | fixed | array | fd => simp
  | unassigned code => simp [kind, Wire.Kind.name?] at named

theorem sent_of_chars
    {value : SentValue}
    {text : String}
    (same : value.text.toList = text.toList) :
    [value].map SentValue.text = [text] :=
  congrArg ([·]) (String.toList_inj.mp same)

/-- A method sends one value for an argument. -/
theorem outgoing_values
    (known : HasKind arg) :
    (context.outgoing arg).values.map SentValue.text = [context.sentText arg] := by
  have named := known.named
  unfold outgoing sentText operands constructorName untyped declaredType? plainType holdsObject
  cases kind : arg.kind with
  | int | uint =>
      cases context.enumerationType? arg <;> refine sent_of_chars ?_ <;> unfold SentValue.text <;>
        simp [commaList]
  | object =>
      cases context.handleType? arg.interface <;> refine sent_of_chars ?_ <;>
        unfold SentValue.text <;> simp [commaList]
  | newId =>
      unfold requested
      by_cases isOpen : arg.interface = ""
      · simp only [isOpen]
        refine sent_of_chars ?_
        unfold SentValue.text
        simp [commaList]
      · cases context.handleType? arg.interface <;>
          simp only [String.isEmpty_eq_false_iff.mpr isOpen, isOpen, Bool.false_eq_true,
            if_false] <;>
          refine sent_of_chars ?_ <;>
          unfold SentValue.text <;> simp [commaList]
  | string =>
      cases arg.nullable <;> refine sent_of_chars ?_ <;> unfold SentValue.text <;> simp [commaList]
  | fixed | array | fd =>
      refine sent_of_chars ?_
      unfold SentValue.text
      simp [commaList]
  | unassigned code => simp [kind, Wire.Kind.name?] at named

theorem outgoing_returned
    (anonymous : context.handleType? "" = none) :
    (context.outgoing arg).returned =
      if arg.kind = .newId then context.made arg else .nothing := by
  unfold outgoing made declaredType?
  cases kind : arg.kind with
  | int | uint => cases context.enumerationType? arg <;> simp
  | object => cases context.handleType? arg.interface <;> simp
  | newId =>
      by_cases isOpen : arg.interface = ""
      · simp [isOpen, anonymous]
      · cases context.handleType? arg.interface <;> simp [isOpen]
  | string => cases arg.nullable <;> simp
  | fixed | array | fd | unassigned code => simp

theorem incoming_parameter
    (known : HasKind arg)
    (index : Nat) :
    (context.incoming arg index).parameter = context.parameter arg := by
  have named := known.named
  unfold incoming parameter typeText declaredType? holdsObject plainType
  cases kind : arg.kind with
  | int | uint => cases context.enumerationType? arg <;> simp
  | object | newId => cases context.handleType? arg.interface <;> simp
  | string => cases arg.nullable <;> simp
  | fixed | array | fd => simp
  | unassigned code => simp [kind, Wire.Kind.name?] at named

/-- What a callback gets for an argument is read from it, at once or into a variable. -/
theorem incoming_source
    (known : HasKind arg)
    (index : Nat) :
    (context.incoming arg index).source.text = context.typed arg (receivedText arg index) := by
  have named := known.named
  refine String.toList_inj.mp ?_
  unfold incoming typed receivedText fieldName? declaredType? holdsObject Incoming.source
  cases kind : arg.kind with
  | int | uint =>
      cases context.enumerationType? arg <;> unfold ReceivedValue.text <;> simp
  | object | newId =>
      cases context.handleType? arg.interface <;> unfold ReceivedValue.text <;> simp
  | string => cases arg.nullable <;> unfold ReceivedValue.text <;> simp
  | fixed | array | fd =>
      unfold ReceivedValue.text
      simp
  | unassigned code => simp [kind, Wire.Kind.name?] at named

theorem isSome_preparation
    (context : Context)
    (arg : Arg)
    (index : Nat) :
    (context.incoming arg index).preparation.isSome = context.isPrepared arg := by
  unfold incoming isPrepared declaredType?
  cases kind : arg.kind with
  | int | uint => cases context.enumerationType? arg <;> simp
  | object | newId => cases context.handleType? arg.interface <;> simp
  | string => cases arg.nullable <;> simp
  | fixed | array | fd | unassigned code => simp

/-- A variable that a callback sets is named like the parameter. -/
theorem prepared_name
    {index : Nat}
    {name : String}
    {value : ReceivedValue}
    (prepared : (context.incoming arg index).preparation = some (name, value)) :
    (context.incoming arg index).parameter.name = name ∧
      (context.incoming arg index).value = .variable name := by
  unfold incoming at prepared ⊢
  cases kind : arg.kind with
  | int | uint => cases found : context.enumerationType? arg <;> simp [kind, found] at prepared
  | object => cases found : context.handleType? arg.interface <;> simp [kind, found] at prepared
  | newId => cases found : context.handleType? arg.interface <;> simp_all
  | string => cases isNullable : arg.nullable <;> simp [kind, isNullable] at prepared
  | fixed | array | fd | unassigned code => simp [kind] at prepared

/-- The case of a callback reads an argument into a variable of the parameter's name, or at once
where the callback is called. -/
theorem incoming_texts
    (known : HasKind arg)
    (index : Nat) :
    (context.incoming arg index).preparation.map (fun setting => (setting.1, setting.2.text)) =
        (if context.isPrepared arg then
          some ((context.parameter arg).name, context.typed arg (receivedText arg index))
        else none) ∧
      (context.incoming arg index).value.text =
        if context.isPrepared arg then (context.parameter arg).name
        else context.typed arg (receivedText arg index) := by
  have source : (context.incoming arg index).source.text =
      context.typed arg (receivedText arg index) :=
    incoming_source known index
  unfold Incoming.source at source
  rw [← isSome_preparation context arg index]
  cases prepared : (context.incoming arg index).preparation with
  | none =>
      rw [prepared] at source
      exact ⟨rfl, source⟩
  | some setting =>
      rw [prepared] at source
      obtain ⟨sameName, isVariable⟩ := prepared_name prepared
      rw [incoming_parameter known] at sameName
      refine ⟨?_, ?_⟩
      · rw [sameName, ← source]
        rfl
      · rw [isVariable, sameName]
        rfl

end Context

/-! ## Both ends of a message -/

/-- The parameters of a method.  A new object is not given but asked for. -/
def Context.sendParameters
    (context : Context)
    (message : Message) :
    List Parameter :=
  message.args.flatMap fun arg =>
    if arg.kind = .newId then context.requested arg else [context.parameter arg]

section Ends

variable {context : Context} {plan : MessagePlan}

theorem planMethod_sent
    (known : ∀ arg ∈ plan.message.args, HasKind arg)
    (role : Role)
    (receivesAny : Bool) :
    (planMethod role context receivesAny plan).values.map SentValue.text =
      plan.message.args.map context.sentText := by
  have each : ∀ arg ∈ plan.message.args,
      (context.outgoing arg).values.map SentValue.text = [context.sentText arg] :=
    fun arg isMember => Context.outgoing_values (known arg isMember)
  unfold planMethod
  simp only [List.flatMap_map, List.map_flatMap]
  rw [List.flatMap_congr each, List.map_eq_flatMap]

theorem planCallback_typed
    (known : ∀ arg ∈ plan.message.args, HasKind arg)
    (role : Role) :
    (planCallback role context plan).arguments.map (·.parameter) =
      plan.message.args.map context.parameter := by
  have each : ∀ placed ∈ plan.message.args.zipIdx,
      (context.incoming placed.1 placed.2).parameter = context.parameter placed.1 :=
    fun placed isMember =>
      Context.incoming_parameter (known _ (List.fst_mem_of_mem_zipIdx isMember)) _
  unfold planCallback
  rw [List.map_map]
  calc plan.message.args.zipIdx.map (fun placed => (context.incoming placed.1 placed.2).parameter)
      = plan.message.args.zipIdx.map (fun placed => context.parameter placed.1) :=
        List.map_congr_left each
    _ = (plan.message.args.zipIdx.map Prod.fst).map context.parameter := by
        rw [List.map_map]
        rfl
    _ = plan.message.args.map context.parameter := by rw [List.zipIdx_map_fst]

theorem planMethod_parameters
    (known : ∀ arg ∈ plan.message.args, HasKind arg)
    (role : Role)
    (receivesAny : Bool) :
    (planMethod role context receivesAny plan).parameters =
      context.sendParameters plan.message := by
  unfold planMethod Context.sendParameters
  simp only [List.flatMap_map]
  exact List.flatMap_congr fun arg isMember => Context.outgoing_parameters (known arg isMember)

/-- A method returns the object of the only argument that makes one. -/
theorem planMethod_returned
    (anonymous : context.handleType? "" = none)
    (role : Role)
    (receivesAny : Bool) :
    (planMethod role context receivesAny plan).returned =
      (plan.message.newIds.map context.made).getLast?.getD .nothing := by
  have each (args : List Arg) :
      ((args.map context.outgoing).map (·.returned)).filter (· ≠ .nothing) =
        (args.filter (·.kind == .newId)).map context.made := by
    induction args with
    | nil => rfl
    | cons arg args inductionHypothesis =>
        simp only [List.map_cons, Context.outgoing_returned anonymous]
        by_cases makes : arg.kind = .newId
        · rw [List.filter_cons_of_pos, List.filter_cons_of_pos, inductionHypothesis]
          · simp [makes]
          · simp [makes]
          · simp [makes, context.made_ne_nothing arg]
        · rw [List.filter_cons_of_neg, List.filter_cons_of_neg, inductionHypothesis]
          · simp [makes]
          · simp [makes]
  unfold planMethod Message.newIds
  simp only [each]

end Ends

end Wayland.Binding
