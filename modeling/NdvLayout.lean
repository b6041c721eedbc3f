import NdvLayout.Basic
import NdvLayout.Geometry
import NdvLayout.Writes
import NdvLayout.Handlers
import NdvLayout.Steps
import NdvLayout.Frame
import NdvLayout.Horizontal
import NdvLayout.Viewport
import NdvLayout.Restore
import NdvLayout.Vertical
import NdvLayout.Arrows
import NdvLayout.Session
import NdvLayout.Watcher
import NdvLayout.Lifecycle
import NdvLayout.Resize
import NdvLayout.Opening
import NdvLayout.Breakpoints
