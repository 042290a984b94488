import BlankImages.Image.Gallery
import BlankImages.Dataset.Disclosure
import BlankImages.Session
import BlankImages.Survey
import BlankImages.Main
import BlankImages.Proofs.AccessOutcome
import BlankImages.Proofs.AccessSequence
import BlankImages.Proofs.LatestSetting
import BlankImages.Proofs.VisitReading
import BlankImages.Proofs.RequestIndependence
import BlankImages.Proofs.SampleHalves
import BlankImages.Proofs.WorkerHalves
import BlankImages.Proofs.SharedAccess
import BlankImages.Proofs.PossibleOutcomes
import BlankImages.Proofs.HalfIndependence
import BlankImages.Proofs.SessionHistory
import BlankImages.Proofs.LabelNaming
import BlankImages.Proofs.LabelLookUp
import BlankImages.Proofs.RasterSize
import BlankImages.Proofs.ElementCount
import BlankImages.Proofs.TensorSize
import BlankImages.Proofs.RasterBytes
import BlankImages.Proofs.TourLines
import BlankImages.Proofs.QuotedReading
import BlankImages.Proofs.RecordReading
import BlankImages.Proofs.SettingsShown
import BlankImages.Proofs.NumberReading
import BlankImages.Proofs.GalleryHistory
import BlankImages.Proofs.SegmentCutting
import BlankImages.Proofs.RecordedRoot
