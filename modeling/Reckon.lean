import Reckon.Text.Quoted
import Reckon.Text.Numeral
import Reckon.Text.Alphanumeric
import Reckon.Decimal.Layout
import Reckon.Decimal.Reading
import Reckon.Value.Text
import Reckon.Place
import Reckon.Error
import Reckon.Operator.Apply
import Reckon.Token.Scan
import Reckon.Tree.Text
import Reckon.Tree.Source
import Reckon.Evaluate.Direct
import Reckon.Session.Basic
import Reckon.Display.Outline
import Reckon.Display.Table
import Reckon.Main
import Reckon.Proofs.Evaluate.Meaning
import Reckon.Proofs.Evaluate.Limit
import Reckon.Proofs.Tree.Grammar
import Reckon.Proofs.Tree.Text
import Reckon.Proofs.Tree.Assignment
import Reckon.Proofs.Session.Depth
import Reckon.Proofs.Session.Sound
import Reckon.Proofs.Session.Maps
import Reckon.Proofs.Session.Printed
import Reckon.Proofs.Session.Replaced
import Reckon.Proofs.Session.Notices
import Reckon.Proofs.Operator.Exact
import Reckon.Proofs.Operator.Compared
import Reckon.Proofs.Operator.Ordered
import Reckon.Proofs.Operator.Named
import Reckon.Proofs.Operator.Infinite
import Reckon.Proofs.Value.Native
import Reckon.Proofs.Token.Signs
import Reckon.Proofs.Tree.Signs
import Reckon.Proofs.Tree.Course
import Reckon.Proofs.Tree.Nesting
import Reckon.Proofs.Tree.Active
import Reckon.Proofs.Token.Tiling
import Reckon.Proofs.Tree.Loosened
import Reckon.Proofs.Tree.Earliest
import Reckon.Proofs.Tree.Placed
import Reckon.Proofs.Display.Outline
import Reckon.Proofs.Token.Literals
