import InfraDiagram.CommandLine.Workspace
import InfraDiagram.Main
import InfraDiagram.Proofs.Addressing
import InfraDiagram.Proofs.Completeness
import InfraDiagram.Proofs.DeclaredEnds
import InfraDiagram.Proofs.DeviceKeys
import InfraDiagram.Proofs.Legibility
import InfraDiagram.Proofs.Outputs
import InfraDiagram.Proofs.Records
import InfraDiagram.Proofs.ErrorPaths
import InfraDiagram.Proofs.Agreement
import InfraDiagram.Proofs.Rewiring
import InfraDiagram.Proofs.ImpliedNodes
import InfraDiagram.Proofs.Layers
import InfraDiagram.Proofs.Shapes
import InfraDiagram.Proofs.OrderingForest
import InfraDiagram.Proofs.RackLayout
import InfraDiagram.Proofs.NullFields
import InfraDiagram.Proofs.Refusals
import InfraDiagram.Proofs.PortLinks
import InfraDiagram.Proofs.Reorderings
import InfraDiagram.Proofs.KeyOrder
import InfraDiagram.Proofs.HiddenPorts
import InfraDiagram.Proofs.Numbering
import InfraDiagram.Proofs.Precedence
import InfraDiagram.Proofs.PortEnds
import InfraDiagram.Proofs.Isolation
import InfraDiagram.Proofs.Nesting
import InfraDiagram.Proofs.ServerRacks
import InfraDiagram.Proofs.Zoning
import InfraDiagram.Proofs.ControlCharacters
import InfraDiagram.Proofs.IdentifierLanguage
import InfraDiagram.Proofs.Unescaping
import InfraDiagram.Proofs.VisibleLabels
import InfraDiagram.Proofs.JsonSpellings
import InfraDiagram.Proofs.RackUnits
import InfraDiagram.Proofs.AttributeOverlays
