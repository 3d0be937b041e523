import Mir.ClientRelease
import Mir.CompositingThreads
import Mir.CompositorRequests
import Mir.ConnectionLifetime
import Mir.CrtcSelection
import Mir.DispatcherFocus
import Mir.ErrorReplies
import Mir.FocusSections
import Mir.FocusSequence
import Mir.FrontBufferLocks
import Mir.InputCompletion
import Mir.InputFocus
import Mir.NativeHandles
import Mir.NestedCalls
import Mir.OutputRestoration
import Mir.PageFlipErrors
import Mir.RemoteCalls
import Mir.RequestFailures
import Mir.RequestReplies
import Mir.RequestThreads
import Mir.RequestWrites
import Mir.RoundRobinBuffers
import Mir.ServerTeardown
import Mir.SocketSessions
import Mir.SortedVector
import Mir.StageDrawing
import Mir.SurfaceStack
import Mir.SurfaceTypes
import Mir.SwapperFrameOrder
import Mir.SwapperWakeups
import Mir.VsyncWaits
