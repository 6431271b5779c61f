import SlateMark.Main
import SlateMark.Proofs.CommonMark.Reading
import SlateMark.Proofs.CommonMark.Encoding
import SlateMark.Proofs.Slate.Live
import SlateMark.Proofs.Convert.Table
import SlateMark.Proofs.Convert.Walk
import SlateMark.Proofs.Convert.Inline
import SlateMark.Proofs.Convert.Correspondence
import SlateMark.Proofs.Convert.Agreement
import SlateMark.Proofs.Convert.Refusal
import SlateMark.Proofs.Convert.Canonical
import SlateMark.Proofs.Convert.Reversal
import SlateMark.Proofs.Slate.Encoding
import SlateMark.Proofs.Json.Numeral
import SlateMark.Proofs.Json.Quoting
import SlateMark.Proofs.Json.Rendering
import SlateMark.Proofs.Slate.Text
import SlateMark.Proofs.Text.Utf8
import SlateMark.Proofs.Convert.Storage
import SlateMark.Proofs.Convert.Text
import SlateMark.Proofs.Command.Journal
import SlateMark.Proofs.Command.Output
import SlateMark.Proofs.Convert.Failure
import SlateMark.Proofs.Config.Escape
import SlateMark.Proofs.Command.Run
import SlateMark.Proofs.Convert.Fault
import SlateMark.Proofs.Convert.Relaxation
import SlateMark.Proofs.CommonMark.Grammar
import SlateMark.Proofs.CommonMark.Location
import SlateMark.Proofs.Convert.Contents
import SlateMark.Proofs.Slate.Grammar
import SlateMark.Proofs.Slate.Modern
import SlateMark.Proofs.Slate.Reordering
import SlateMark.Proofs.Convert.Notice
import SlateMark.Proofs.Command.Precedence
