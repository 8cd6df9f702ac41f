import RoutePaths.Action
import RoutePaths.Editor.Layer
import RoutePaths.Main
import RoutePaths.Proofs.Group.Finished
import RoutePaths.Proofs.Group.Nesting
import RoutePaths.Proofs.Route.ResolvedPath
import RoutePaths.Proofs.Editor.Scheduler
import RoutePaths.Proofs.Editor.Run
import RoutePaths.Proofs.Editor.Timers
import RoutePaths.Proofs.Editor.Refresh
import RoutePaths.Proofs.Editor.Cancel
import RoutePaths.Proofs.Editor.Display
import RoutePaths.Proofs.Editor.Disabled
import RoutePaths.Proofs.OpenApi.Methods
import RoutePaths.Proofs.Group.Sibling
import RoutePaths.Proofs.Marker.Appended
import RoutePaths.Proofs.Project.Document
import RoutePaths.Proofs.Project.Single
import RoutePaths.Proofs.Source.Leftover
import RoutePaths.Proofs.Source.Resolve
import RoutePaths.Proofs.OpenApi.Order
import RoutePaths.Proofs.Project.Agreement
import RoutePaths.Proofs.Report
import RoutePaths.Proofs.Composer
import RoutePaths.Proofs.OpenApi.JsonText
import RoutePaths.Proofs.Editor.Refused
import RoutePaths.Proofs.OpenApi.Excluded
import RoutePaths.Proofs.Route.Grammar
import RoutePaths.Proofs.Group.Chain
import RoutePaths.Proofs.Group.Controller
import RoutePaths.Proofs.Route.Edited
import RoutePaths.Proofs.Editor.Others
import RoutePaths.Proofs.Report.Account
import RoutePaths.Proofs.UrlPath.Compose
import RoutePaths.Proofs.Group.Stack
import RoutePaths.Proofs.Json.Fault
import RoutePaths.Proofs.Text.Break
