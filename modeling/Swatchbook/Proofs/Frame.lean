import Swatchbook.Proofs.Execution
import Swatchbook.Proofs.Output

/-!
# What writing leaves alone

Writing puts files at the places that it is asked to, and makes the folders
that are missing on the way there. Nothing else changes, in whatever order the
pages are written and wherever it stops, on a disk with links or without. A
path stands for the file that it leads to.
-/

namespace Swatchbook

namespace Disk

variable {targets : Path → Prop} {d e : Disk} {here : Location}

end Disk

namespace Renderer

-- ---------------------------------------------------------------------------
-- The errands of a run
-- ---------------------------------------------------------------------------

def targets (r : Renderer) (guide : Styleguide) : List Path :=
  r.config.dest.join "index.html" :: guide.pages.map Page.dest ++
    r.localScripts.map (scriptTarget r.config)

section

variable {r : Renderer} {guide : Styleguide} {targets : Path → Prop} {d : Disk}

end

-- ---------------------------------------------------------------------------
-- Runs
-- ---------------------------------------------------------------------------

/-- To do the errands in order, on a volume and up to the first that fails, is one of the runs. -/
theorem runs_write (r : Renderer) (guide : Styleguide) (before : Session) : ∃ after : Moment,
    Moment.Runs (r.begin guide before.volume.toDisk) after ∧
      after.disk = (r.write guide before).2.volume.toDisk ∧
      ((r.write guide before).1 = .ok () → after.Succeeded) :=
  Work.runs_stages (r.stages guide) (List.forall_mem_nil _) before

end Renderer

end Swatchbook
