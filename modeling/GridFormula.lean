import GridFormula.Cache.ArrayFormula
import GridFormula.Formula.DefinedName
import GridFormula.Formula.Writer
import GridFormula.Grid.Sheets
import GridFormula.Locale.Presets
import GridFormula.Lookup.ColumnIndex
import GridFormula.Number.Hex
import GridFormula.Proofs.Cache.Soundness
import GridFormula.Proofs.Edit.Affected
import GridFormula.Proofs.Edit.Commuting
import GridFormula.Proofs.Edit.Soundness
import GridFormula.Proofs.Edit.Undoing
import GridFormula.Proofs.Edit.Workbook
import GridFormula.Proofs.Edit.Writing
import GridFormula.Proofs.Formula.Grammar
import GridFormula.Proofs.Lexeme.Scans
import GridFormula.Proofs.Lexeme.Spacing
import GridFormula.Proofs.Formula.Spelling
import GridFormula.Proofs.Formula.Readback
import GridFormula.Proofs.Lookup.Finding
import GridFormula.Proofs.Cache.Resheeting
import GridFormula.Proofs.Formula.Sharing
import GridFormula.Proofs.Cache.Rewriting
import GridFormula.Proofs.Formula.Regaining
import GridFormula.Proofs.Locale.Translation
import GridFormula.Proofs.Grid.SheetChanges
import GridFormula.Proofs.Formula.References
import GridFormula.Proofs.Formula.Respacing
import GridFormula.Proofs.Formula.Reproducing
import GridFormula.Proofs.Formula.OffsetReading
import GridFormula.Proofs.Lexeme.Lossless
import GridFormula.Proofs.Lookup.Ascending
import GridFormula.Proofs.Formula.SheetPrefix
import GridFormula.Proofs.Reference.Ordering
import GridFormula.Proofs.Grid.ColumnReading
