import LinksBinding.Syntax.Kind
import LinksBinding.Text.Numeral

/-!
# Node labels

The parser gives each node one string for what it is: a tag, and behind a colon and a space what
belongs to it, as in `Variable: x` or `Block`. `decodeLabel` reads that string into a `Kind`.

Tags without a known meaning are kept as they are. A label is refused for two reasons only: it has
no tag, or its tag needs a name and there is none.
-/

namespace LinksBinding

open Text

/-- Why a label cannot be decoded. -/
inductive LabelError where
  /-- there is no tag -/
  | emptyTag
  /-- the tag needs a name of the kind `what` -/
  | missingPayload (tag what : String)
  deriving DecidableEq, Repr

/-- The wording of a label error. -/
def LabelError.message : LabelError → String
  | .emptyTag => "empty discriminant"
  | .missingPayload tag what => "'" ++ tag ++ "' requires a " ++ what

/-- The parts before and after the first colon that a space follows. -/
def cutAtSeparator : List Char → Option (List Char × List Char)
  | [] => none
  | c :: rest =>
    match c, rest with
    | ':', ' ' :: payload => some ([], payload)
    | _, _ => (cutAtSeparator rest).map fun (before, after) => (c :: before, after)

/-- The tag of a label, and what stands behind its separator. Without a separator, colons at the
end of the tag do not belong to it. -/
def splitLabel (label : String) : String × Option String :=
  match cutAtSeparator label.toList with
  | some (tag, payload) => (String.ofList (trim tag), some (String.ofList payload))
  | none => (String.ofList (dropEndWhile (· == ':') (trim label.toList)), none)

/-- The constant with that source text. -/
def decodeLiteral (text : String) : Literal :=
  if text.toList.head? = some '"' then .string text
  else if isNumeral text.toList then .number text
  else .other text

/-- The name behind a tag that needs one. -/
def requirePayload (tag what : String) (payload : Option String) : Except LabelError String :=
  match payload with
  | some text =>
    let name := trimString text
    if name.isEmpty then .error (.missingPayload tag what) else .ok name
  | none => .error (.missingPayload tag what)

/-- Reads a label. Binders get the role of a `var` declaration; the nodes above decide later. -/
def decodeLabel (label : String) : Except LabelError Kind :=
  let (tag, payload) := splitLabel label
  match tag with
  | "" => .error .emptyTag
  | "Fun" => .function <$> requirePayload tag "function name" payload
  | "Funs" => .ok .functionGroup
  | "FunLit" | "NormalFunlit" => .ok .lambda
  | "Params" => .ok .parameters
  | "Block" => .ok .block
  | "Val" => .ok .declaration
  | "FunCall" | "FnAppl" => .ok .call
  | "Iteration" => .ok .iteration
  | "Generator" => .ok .generator
  | "Formlet" => .ok .formlet
  | "FormBinding" => .ok .formBinding
  | "FormletPlacement" => .ok .formletPlacement
  | "DBUpdate" => .ok .update
  | "DBDelete" => .ok .deletion
  | "Projection" => .projection <$> requirePayload tag "field name" payload
  | "Constructor" | "ConstructorLit" => .constructor <$> requirePayload tag "tag" payload
  | "Xml" => .element <$> requirePayload tag "tag name" payload
  | "XmlAttr" => .attribute <$> requirePayload tag "attribute name" payload
  | "Variable" => .variable <$> requirePayload tag "name" payload
  | "Binder" => (.binder · .letBinding) <$> requirePayload tag "name" payload
  | "Constant" => .ok (.constant (decodeLiteral (payload.getD "")))
  | "TextNode" => .ok (.text (payload.getD ""))
  | _ => .ok (.other tag payload)

end LinksBinding
