import Mender.Filing

/-!
# Sites

A site is what a run works on: a disk, and what the tools and the oracle remember
from one call to the next. An effect changes a site and may fail; the changes
before the failure stay.
-/

namespace Mender

structure Site (σ : Type) where
  disk : Disk
  memory : σ

abbrev Effect (σ α : Type) := ExceptT Failure (StateM (Site σ)) α

namespace Effect

variable {σ α : Type}

/-- Work on the disk of a site. -/
def ofFiling (work : Filing α) : Effect σ α := fun site =>
  let (result, disk) := work site.disk
  (result, { site with disk })

/-- Says what is being done if an effect fails. -/
def within (doing : String) (effect : Effect σ α) : Effect σ α := fun site =>
  let (result, site) := effect site
  (result.mapError (Failure.within doing), site)

end Effect

end Mender
