import HomeScenes.Condition.Source
import HomeScenes.Controller.Settings
import HomeScenes.Files.Root
import HomeScenes.Launch
import HomeScenes.Main
import HomeScenes.Number.Decimal
import HomeScenes.Registry
import HomeScenes.Service
import HomeScenes.Proofs.Condition.Agreement
import HomeScenes.Proofs.Condition.Meaning
import HomeScenes.Proofs.Condition.Containment
import HomeScenes.Proofs.Condition.Threshold
import HomeScenes.Proofs.Registry.Exchanges
import HomeScenes.Proofs.Registry.Restart
import HomeScenes.Proofs.Condition.Carried
import HomeScenes.Proofs.Registry.Footprint
import HomeScenes.Proofs.Registry.Acceptance
import HomeScenes.Proofs.Service.Blame
import HomeScenes.Proofs.Lua.Literal
import HomeScenes.Proofs.Automation.Layout
import HomeScenes.Proofs.Condition.Coverage
import HomeScenes.Proofs.Condition.Stopping
import HomeScenes.Proofs.Condition.Decoding
import HomeScenes.Proofs.Registry.Loading
import HomeScenes.Proofs.Lua.Code
import HomeScenes.Proofs.Lua.Joined
import HomeScenes.Proofs.Condition.Fragments
import HomeScenes.Proofs.Condition.VisitOrder
import HomeScenes.Proofs.Automation.Statements
import HomeScenes.Proofs.Files.Ascent
import HomeScenes.Proofs.Registry.FailedSave
