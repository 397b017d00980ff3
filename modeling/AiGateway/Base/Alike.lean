import AiGateway.Base.Json

/-!
# Documents alike but for hidden members

Two documents agree outside the members of some names when nothing else tells
them apart.  They have one shape when their objects have the same names and the
rest of them the same kinds.
-/

namespace AiGateway.Json

set_option autoImplicit false

inductive Kind where
  | null
  | bool
  | number
  | string
  | array
  | object
deriving DecidableEq

def Value.kind : Value → Kind
  | .null => .null
  | .bool _ => .bool
  | .number _ => .number
  | .string _ => .string
  | .array _ => .array
  | .object _ => .object

section

variable (hidden : String → Bool)

mutual
/-- Equal but for the values of hidden members, at any depth and inside arrays. -/
inductive AgreeOutside : Value → Value → Prop
  | same (v : Value) : AgreeOutside v v
  | array {items items' : List Value} (h : ItemsAgree items items') :
    AgreeOutside (.array items) (.array items')
  | object {fields fields' : Fields} (h : MembersAgree fields fields') :
    AgreeOutside (.object fields) (.object fields')

inductive ItemsAgree : List Value → List Value → Prop
  | nil : ItemsAgree [] []
  | cons {v w : Value} {rest rest' : List Value} (h : AgreeOutside v w)
    (hRest : ItemsAgree rest rest') : ItemsAgree (v :: rest) (w :: rest')

inductive MembersAgree : Fields → Fields → Prop
  | nil : MembersAgree [] []
  | shown {key : String} {v w : Value} {rest rest' : Fields} (h : AgreeOutside v w)
    (hRest : MembersAgree rest rest') : MembersAgree ((key, v) :: rest) ((key, w) :: rest')
  | hidden {key : String} (v w : Value) {rest rest' : Fields} (hKey : hidden key = true)
    (hRest : MembersAgree rest rest') : MembersAgree ((key, v) :: rest) ((key, w) :: rest')
end

mutual
/-- Objects of the same names, and anything else of the same kind; what hidden
members hold does not matter. -/
inductive SameShape : Value → Value → Prop
  | leaf {v w : Value} (hLeaf : v.kind ≠ .object) (hKind : w.kind = v.kind) : SameShape v w
  | object {fields fields' : Fields} (h : MembersSameShape fields fields') :
    SameShape (.object fields) (.object fields')

inductive MembersSameShape : Fields → Fields → Prop
  | nil : MembersSameShape [] []
  | shown {key : String} {v w : Value} {rest rest' : Fields} (h : SameShape v w)
    (hRest : MembersSameShape rest rest') :
    MembersSameShape ((key, v) :: rest) ((key, w) :: rest')
  | hidden {key : String} (v w : Value) {rest rest' : Fields} (hKey : hidden key = true)
    (hRest : MembersSameShape rest rest') :
    MembersSameShape ((key, v) :: rest) ((key, w) :: rest')
end

end

end AiGateway.Json
