import RoadSketch.Main
import RoadSketch.Display
import RoadSketch.Sketch
import RoadSketch.Proofs.Ribbon.Coherence
import RoadSketch.Proofs.Ribbon.Backwards
import RoadSketch.Proofs.Ribbon.Scaling
import RoadSketch.Proofs.Network.Reach
import RoadSketch.Proofs.Network.Curve
import RoadSketch.Proofs.Dash.Reached
import RoadSketch.Proofs.Contour.Pattern
import RoadSketch.Proofs.Polyline.Drift
import RoadSketch.Proofs.Figures
import RoadSketch.Proofs.Contour.Repeats
import RoadSketch.Proofs.Network.Building
import RoadSketch.Proofs.Color.Writing
import RoadSketch.Proofs.Color.Brightness
import RoadSketch.Proofs.CommandLine.Crashes
import RoadSketch.Proofs.Precision.Obtained
import RoadSketch.Proofs.Polyline.Cuts
import RoadSketch.Proofs.Polyline.Resample
import RoadSketch.Proofs.Polyline.Corners
import RoadSketch.Proofs.Dash.Counts
import RoadSketch.Proofs.Dash.Joined
import RoadSketch.Proofs.Ribbon.Fitting
import RoadSketch.Proofs.Nearness
import RoadSketch.Proofs.Ribbon.Trimming
import RoadSketch.Proofs.Network.Overshoot
import RoadSketch.Proofs.Unrounded
import RoadSketch.Proofs.Polyline.Center
import RoadSketch.Proofs.Ribbon.PathEnds
import RoadSketch.Proofs.Dash.Turns
import RoadSketch.Proofs.Polyline.Circles
import RoadSketch.Proofs.Polyline.Wrapping
import RoadSketch.Proofs.Polyline.Gluing
import RoadSketch.Proofs.Canvas.Hints
import RoadSketch.Proofs.Polyline.NearestSegment
