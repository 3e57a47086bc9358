import FeatureSpec.Failure
import FeatureSpec.MappingTable
import FeatureSpec.Model.Reply
/-!
The store of loaded features: one entry for each feature, replaced as a whole. A closed store
is empty and refuses every write.
-/
namespace FeatureSpec

structure StoreEntry where
  definition : Feature
  backend : Backend
  frontend : FrontendReply
  table : MappingTable
  deriving DecidableEq, Repr

structure Store where
  entries : Entries StoreEntry := []
  closed : Bool := false
  deriving DecidableEq, Repr

namespace Store

def get? (s : Store) (feature : String) : Option StoreEntry := s.entries.get? feature

def contains (s : Store) (feature : String) : Bool := s.entries.contains feature

def size (s : Store) : Nat := s.entries.length

def write (s : Store) (change : Entries StoreEntry → Entries StoreEntry) : Except Failure Store :=
  if s.closed then .error (.state .storeClosed) else .ok { s with entries := change s.entries }

def replace (s : Store) (feature : String) (entry : StoreEntry) : Except Failure Store :=
  s.write fun m => m.put feature entry

def discard (s : Store) (feature : String) : Except Failure Store :=
  s.write fun m => m.erase feature

def clear (s : Store) : Except Failure Store := s.write fun _ => []

def close (_ : Store) : Store := { entries := [], closed := true }

end Store
end FeatureSpec
