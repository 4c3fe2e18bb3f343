import WeekMenu.Main
import WeekMenu.Proofs.Session.Mirror
import WeekMenu.Proofs.Store.Effects
import WeekMenu.Proofs.Store.Restart
import WeekMenu.Proofs.Store.RoundTrip
import WeekMenu.Proofs.Store.Run
import WeekMenu.Proofs.Store.Sharing
import WeekMenu.Proofs.Store.Verdict
import WeekMenu.Proofs.Store.Recheck
import WeekMenu.Proofs.Days
import WeekMenu.Proofs.State.QuickAction
import WeekMenu.Proofs.Suggestion
import WeekMenu.Proofs.State.Recall
import WeekMenu.Proofs.Session.Typing
import WeekMenu.Proofs.Mail.Template
import WeekMenu.Proofs.Mail.Meals
import WeekMenu.Proofs.Session.History
import WeekMenu.Proofs.State.Accept
import WeekMenu.Proofs.Catalog.Lookup
import WeekMenu.Proofs.Menu.Commute
import WeekMenu.Proofs.Store.Commute
import WeekMenu.Proofs.Text.Firm
import WeekMenu.Proofs.Text.Ranges
import WeekMenu.Proofs.Text.Points
import WeekMenu.Proofs.Text.Decompose
import WeekMenu.Proofs.Text.Fold
import WeekMenu.Proofs.Literal
import WeekMenu.Proofs.Suggestion.Distinct
import WeekMenu.Proofs.Suggestion.Spacing
import WeekMenu.Proofs.Terminal.Popup
import WeekMenu.Proofs.Screen.Layout
import WeekMenu.Proofs.Storage.Folder
import WeekMenu.Proofs.State.Scroll
import WeekMenu.Proofs.State.Copy
import WeekMenu.Proofs.State.Cursor
import WeekMenu.Proofs.KeyMap
import WeekMenu.Proofs.Session.Tasks
