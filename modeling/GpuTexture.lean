import GpuTexture.File.Tree
import GpuTexture.Ktx2.Walk
import GpuTexture.Ktx2.Writer
import GpuTexture.Main
import GpuTexture.Proofs.LittleEndian
import GpuTexture.Upload.Native
import GpuTexture.Upload.Session
import GpuTexture.Proofs.MipChain
import GpuTexture.Proofs.LevelOrder
import GpuTexture.Proofs.ContainerBytes
import GpuTexture.Proofs.Decoding
import GpuTexture.Proofs.LevelAccess
import GpuTexture.Proofs.RoundTrip
import GpuTexture.Proofs.UploadTrace
import GpuTexture.Proofs.ContainerUpload
import GpuTexture.Proofs.PayloadLengths
import GpuTexture.Proofs.Truncation
import GpuTexture.Proofs.MipPrefix
import GpuTexture.Proofs.FieldReads
import GpuTexture.Proofs.Interpretation
import GpuTexture.Proofs.NativeImage
import GpuTexture.Proofs.SessionHistory
import GpuTexture.Proofs.ExactLayout
import GpuTexture.Proofs.StoredPicture
import GpuTexture.Proofs.JsonText
import GpuTexture.Proofs.JsonForms
import GpuTexture.Proofs.CommandReports
import GpuTexture.Proofs.ShrinkingLevels
import GpuTexture.Proofs.PlannedLevels
import GpuTexture.Proofs.AlignedExtents
import GpuTexture.Proofs.WrittenExtents
import GpuTexture.Proofs.NestedLevels
import GpuTexture.Proofs.ShapeClasses
import GpuTexture.Proofs.WalkHistory
