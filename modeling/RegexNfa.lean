import RegexNfa.Main
import RegexNfa.Proofs.Recursion
import RegexNfa.Proofs.Sufficiency
import RegexNfa.Proofs.FrontierSize
import RegexNfa.Proofs.SkippedSymbol
import RegexNfa.Proofs.Rebuilding
import RegexNfa.Proofs.Regrouping
import RegexNfa.Proofs.Resources
import RegexNfa.Proofs.Assembly
import RegexNfa.Proofs.Conservation
import RegexNfa.Proofs.Dependence
import RegexNfa.Proofs.FragmentSizes
import RegexNfa.Proofs.IndexPositions
import RegexNfa.Proofs.Renderings
import RegexNfa.Proofs.Dialogue
