import Ufo.Variable
import Ufo.Store
import Ufo.GetAllData
import Ufo.SortIndices
import Ufo.Selection
import Ufo.Rows
import Ufo.Render
import Ufo.DoFilter
import Ufo.Collectives
import Ufo.Ranks
import Ufo.Window
import Ufo.Variant
import Ufo.Widths
import Ufo.Reference
import Ufo.Redistribution
import Ufo.SfcCorrected
import Ufo.Table
import Ufo.Runs
