import FlowDiagram.Text.LowerCase
import FlowDiagram.Text.Quoted

/-!
# Image formats

The formats that a Graphviz diagram can be rendered to. A format is known by its name, in whatever
case it is written.

## Main definitions

* `ImageFormat.isKnown`: whether a name means a format.
* `ImageFormat.unknownMessage`: the wording of the error about a name that means none.
-/

namespace FlowDiagram.ImageFormat

/-- The names of the formats, sorted. -/
def names : List String :=
  ["bmp", "canon", "cgimage", "cmap", "cmapx", "cmapx_np", "dot", "dot_json", "eps", "exr", "fig",
   "gd", "gd2", "gif", "gtk", "gv", "ico", "imap", "imap_np", "ismap", "jp2", "jpe", "jpeg", "jpg",
   "json", "json0", "pct", "pdf", "pic", "pict", "plain", "plain-ext", "png", "pov", "ps", "ps2",
   "psd", "sgi", "svg", "svg_inline", "svgz", "tga", "tif", "tiff", "tk", "vml", "vmlz", "vrml",
   "wbmp", "webp", "x11", "xdot", "xdot1.2", "xdot1.4", "xdot_json", "xlib"]

/-- Whether a name means a format. -/
def isKnown (name : Text) : Bool :=
  names.any fun known => Text.lower name = known

/-- The wording of the error about a name that means no format. -/
def unknownMessage (name : Text) : Text :=
  "unknown format: " ++ Text.quoted name ++ " (must be one of [" ++
    Text.joined ", " (names.map fun known : String => Text.quoted known) ++ "])"

end FlowDiagram.ImageFormat
