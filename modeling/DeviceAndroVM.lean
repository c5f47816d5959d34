import DeviceAndroVM.Library.Transition
import DeviceAndroVM.OpenglCodecCommon.TextureRuns
import DeviceAndroVM.EGL.LifetimeRuns
import DeviceAndroVM.EGL.Encoders
import DeviceAndroVM.EGL.BufferCustody
import DeviceAndroVM.GLESv2Enc.ShaderRefcount
import DeviceAndroVM.GLESv2Enc.SharedLifetime
import DeviceAndroVM.GLESv2Enc.TextureSync
import DeviceAndroVM.GLESv2Enc.BufferSync
import DeviceAndroVM.GLESv1Enc.TextureSync
import DeviceAndroVM.GLESv1Enc.ArrayEnables
import DeviceAndroVM.OpenglCodecCommon.LocationWAR
import DeviceAndroVM.GLESv2Enc.LinkedTable
import DeviceAndroVM.Library.CString
import DeviceAndroVM.GLESv2Enc.UniformLocations
import DeviceAndroVM.GLESv2Enc.SamplerTracking
import DeviceAndroVM.GLESv2Enc.ShaderSource
import DeviceAndroVM.GLESv2Enc.ExternalSamplers
import DeviceAndroVM.Camera.RecordingFrames
import DeviceAndroVM.Camera.PreviewBuffers
import DeviceAndroVM.Camera.GenyClient
import DeviceAndroVM.Camera.QueryFraming
import DeviceAndroVM.Camera.FrameSafety
import DeviceAndroVM.Camera.CallBoundaries
import DeviceAndroVM.Library.Lines
import DeviceAndroVM.Library.Calendar
import DeviceAndroVM.Gps.NmeaReader
import DeviceAndroVM.Library.Decimal
import DeviceAndroVM.Gps.SentenceFraming
import DeviceAndroVM.Gps.OtherSentences
import DeviceAndroVM.Gps.LocalGps
import DeviceAndroVM.Gps.WrittenSentences
import DeviceAndroVM.Gps.SentencePairs
import DeviceAndroVM.Gps.FixRoundTrip
import DeviceAndroVM.Gps.FixTimestamps
import DeviceAndroVM.OpenglCodecCommon.StreamPackets
import DeviceAndroVM.BdVbox.WakeUp
import DeviceAndroVM.Gralloc.AllocList
import DeviceAndroVM.Gralloc.HostReferences
import DeviceAndroVM.Sensors.SensorStream
import DeviceAndroVM.LocalOpengl.Pairing
import DeviceAndroVM.LocalOpengl.Heartbeat
import DeviceAndroVM.LocalOpengl.Descriptors
import DeviceAndroVM.LocalOpengl.RelayStreams
import DeviceAndroVM.LocalCamera.Proxy
import DeviceAndroVM.VInput.Multitouch
import DeviceAndroVM.Camera.Converters
import DeviceAndroVM.Camera.PlaneLayouts
import DeviceAndroVM.Camera.ConversionTouches
import DeviceAndroVM.Audio.ActiveStreams
import DeviceAndroVM.Audio.Capture
import DeviceAndroVM.GLESv1Enc.ClientArrays
import DeviceAndroVM.OpenglCodecCommon.SubUpdate
import DeviceAndroVM.OpenglCodecCommon.PixelData
import DeviceAndroVM.GLESv1Enc.StateQueries
import DeviceAndroVM.Draws.IndexReads
import DeviceAndroVM.Library.RoundUp
import DeviceAndroVM.Draws.IndexRange
import DeviceAndroVM.Draws.PointerData
import DeviceAndroVM.Draws.PackedBytes
import DeviceAndroVM.GLESv2Enc.PackStrings
import DeviceAndroVM.OpenglCodecCommon.TextureMemory
import DeviceAndroVM.Library.Sink
import DeviceAndroVM.Draws.SentArrays
import DeviceAndroVM.Draws.RecordReads
import DeviceAndroVM.EGL.TerminateLists
import DeviceAndroVM.Camera.WhiteBalance
import DeviceAndroVM.Library.WhileLoop
import DeviceAndroVM.GLESv2Enc.SourceLoops
import DeviceAndroVM.GLESv2Enc.SourceFrame
import DeviceAndroVM.OpenGL.ShaderText
import DeviceAndroVM.GLESv2Enc.SamplerTokens
import DeviceAndroVM.EGL.Catalogue
import DeviceAndroVM.Library.WordArray
import DeviceAndroVM.OpenglCodecCommon.DeleteTextures
import DeviceAndroVM.Library.StringBlock
import DeviceAndroVM.EGL.Extensions
import DeviceAndroVM.EGL.ConfigBounds
import DeviceAndroVM.EGL.PixelFormats
import DeviceAndroVM.Library.PairList
import DeviceAndroVM.EGL.AttribLists
import DeviceAndroVM.OpenglCodecCommon.ReadFully
import DeviceAndroVM.Library.Holders
import DeviceAndroVM.OpenglCodecCommon.SmartPtr
import DeviceAndroVM.OpenglCodecCommon.SmartPtrRuns
import DeviceAndroVM.Gralloc.DeviceClose
import DeviceAndroVM.Gralloc.BufferSize
import DeviceAndroVM.Library.SamplePlane
import DeviceAndroVM.Gralloc.YuvLayout
import DeviceAndroVM.Gralloc.LockUpload
import DeviceAndroVM.Gralloc.UploadedRows
import DeviceAndroVM.VInput.LineParsing
import DeviceAndroVM.VInput.Pinch
import DeviceAndroVM.Library.Slot
import DeviceAndroVM.Sensors.ClientSlots
import DeviceAndroVM.Library.Compact
import DeviceAndroVM.Gps.SentenceFields
import DeviceAndroVM.Gps.FieldChecks
import DeviceAndroVM.Gps.UtcDiff
import DeviceAndroVM.Gps.GgaSentences
import DeviceAndroVM.Camera.FrameLifetime
import DeviceAndroVM.Camera.EmulatedFakeCameraDevice
import DeviceAndroVM.Camera.FakeDrawing
import DeviceAndroVM.Library.MachineWords
import DeviceAndroVM.Camera.Exposure
import DeviceAndroVM.Camera.FrameRates
import DeviceAndroVM.Camera.QemuQuery
import DeviceAndroVM.Camera.ReplyReads
import DeviceAndroVM.BdVbox.Utf16Names
import DeviceAndroVM.Library.Utf16
import DeviceAndroVM.BdVbox.SharedFolders
import DeviceAndroVM.Audio.WriteThrottle
import DeviceAndroVM.Wire.HostSession
import DeviceAndroVM.Audio.ThreadRuns
import DeviceAndroVM.Gps.StateThread
import DeviceAndroVM.Gps.StateThreadRuns
import DeviceAndroVM.Gps.CleanUp
import DeviceAndroVM.V86d.RealMemoryRuns
