import Invocation.Arguments
import Invocation.Main
import Invocation.Mode.Table
import Invocation.Resolve.Cursor
import Invocation.Proofs.Grammar
import Invocation.Proofs.Refusal
import Invocation.Proofs.Transcript
import Invocation.Proofs.Layout
import Invocation.Proofs.ErrorStream
import Invocation.Proofs.LogIndependence
import Invocation.Proofs.Wrapping
import Invocation.Proofs.Extension
import Invocation.Proofs.Override
import Invocation.Proofs.Reordering
import Invocation.Proofs.Opacity
import Invocation.Proofs.CanonicalLine
import Invocation.Proofs.Quotation
import Invocation.Proofs.Diagnosis
import Invocation.Proofs.Decoding
import Invocation.Proofs.Trimming
import Invocation.Proofs.LevelSetting
import Invocation.Proofs.MessageText
import Invocation.Proofs.SummaryLine
import Invocation.Proofs.CursorWalk
import Invocation.Proofs.TableAgreement
import Invocation.Proofs.WrittenTables
