import EglWayland.Storage
import EglWayland.FormatSet
import EglWayland.Feedback.Machine
import EglWayland.Feedback.Cycle
import EglWayland.Feedback.Safety
import EglWayland.Display.State
import EglWayland.Display.Device
import EglWayland.Display.Probe
import EglWayland.Display.Create
import EglWayland.Display.Hooks
import EglWayland.Display.Threads
import EglWayland.Display.Teardown
import EglWayland.Display.Directory
import EglWayland.Display.Refcount
import EglWayland.Display.Lifecycle
import EglWayland.Display.Registry
import EglWayland.Display.Globals
import EglWayland.Display.Attribs
import EglWayland.Display.ChooseConfig
import EglWayland.Display.DmaBuf
import EglWayland.Display.SyncSupport
import EglWayland.Display.Whole
