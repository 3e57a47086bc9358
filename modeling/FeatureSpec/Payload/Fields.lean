import FeatureSpec.Payload.Codec
/-!
Codecs of records, put together from their fields in the order of declaration. A field has a
name on the wire and may be given under its plain name too; the wire name wins. Members that
belong to no field are passed over.
-/
namespace FeatureSpec.Payload

/-- How some fields of a record of type `ρ` are read as an `α`, and how they are written. -/
structure Fields (ρ α : Type) where
  decode : Entries Json → Checked α
  encode : ρ → List (String × Json)

namespace Fields

variable {ρ α β : Type}

/-- The member that a field is read from, and the name it was found under. -/
def find? (members : Entries Json) (wire plain : String) : Option (String × Json) :=
  match members.get? wire with
  | some v => some (wire, v)
  | none => (members.get? plain).map fun v => (plain, v)

def field (wire plain : String) (codec : Codec α) (absent : α) (get : ρ → α) : Fields ρ α where
  decode members :=
    match find? members wire plain with
    | some (name, v) => Checked.under (.key name) (codec.decode v)
    | none => .ok absent
  encode r := [(wire, codec.encode (get r))]

def mandatory (wire plain : String) (codec : Codec α) (get : ρ → α) : Fields ρ α where
  decode members :=
    match find? members wire plain with
    | some (name, v) => Checked.under (.key name) (codec.decode v)
    | none => Checked.under (.key wire) (Checked.fault .missing (.object members))
  encode r := [(wire, codec.encode (get r))]

instance : Functor (Fields ρ) where
  map f x := { decode := fun members => (x.decode members).map f, encode := x.encode }

instance : Seq (Fields ρ) where
  seq f x :=
    { decode := fun members => Checked.both (f.decode members) ((x ()).decode members)
      encode := fun r => f.encode r ++ (x ()).encode r }

end Fields

def Codec.record {ρ : Type} (title : String) (fields : Fields ρ ρ) : Codec ρ where
  decode
    | .object members => fields.decode members
    | v => Checked.fault (.notRecord title) v
  encode r := .object (fields.encode r)

end FeatureSpec.Payload
