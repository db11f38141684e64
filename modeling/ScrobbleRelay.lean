import ScrobbleRelay.Main
import ScrobbleRelay.Relay.Steps
import ScrobbleRelay.Proofs.Relay.Delivery
import ScrobbleRelay.Proofs.Web.Exchange
import ScrobbleRelay.Proofs.Ends
import ScrobbleRelay.Proofs.Service.Turns
import ScrobbleRelay.Proofs.Service.Audioscrobbler.Answers
import ScrobbleRelay.Proofs.Web.Address
import ScrobbleRelay.Proofs.Service.Audioscrobbler.Course
import ScrobbleRelay.Proofs.Service.Audioscrobbler.Sessions
import ScrobbleRelay.Proofs.Service.Audioscrobbler.StuckSessions
import ScrobbleRelay.Proofs.Toml.Strings
import ScrobbleRelay.Proofs.Toml.Sheets
import ScrobbleRelay.Proofs.Toml.Tables
import ScrobbleRelay.Proofs.Files.Written
import ScrobbleRelay.Proofs.Settings.Saved
import ScrobbleRelay.Proofs.Settings.Inactive
import ScrobbleRelay.Proofs.Service.Scripted
import ScrobbleRelay.Proofs.Leads
import ScrobbleRelay.Proofs.Web.Asking
import ScrobbleRelay.Proofs.Service.Requests
import ScrobbleRelay.Proofs.Files.Changes
import ScrobbleRelay.Proofs.Web.FormTexts
import ScrobbleRelay.Proofs.Settings.Stored
import ScrobbleRelay.Proofs.Service.Submissions
import ScrobbleRelay.Proofs.Service.Login
import ScrobbleRelay.Proofs.Program.Stages
import ScrobbleRelay.Proofs.Program.Effects
import ScrobbleRelay.Proofs.Text.Digits
import ScrobbleRelay.Proofs.Time.Stamps
import ScrobbleRelay.Proofs.Web.JsonTexts
import ScrobbleRelay.Proofs.Service.Told
import ScrobbleRelay.Proofs.Service.Telling
import ScrobbleRelay.Proofs.Playback.Payloads
import ScrobbleRelay.Proofs.Relay.Journal
import ScrobbleRelay.Proofs.Bus.Rules
import ScrobbleRelay.Proofs.Relay.Subscription
import ScrobbleRelay.Proofs.Twins
import ScrobbleRelay.Proofs.Web.Abreast
import ScrobbleRelay.Proofs.Service.Audioscrobbler.Secrecy
import ScrobbleRelay.Proofs.Time.Order
import ScrobbleRelay.Proofs.Service.Audioscrobbler.Forms
import ScrobbleRelay.Proofs.Service.Audioscrobbler.Grammar
import ScrobbleRelay.Proofs.Web.PlainNames
import ScrobbleRelay.Proofs.Console
import ScrobbleRelay.Proofs.Service.SessionKeys
import ScrobbleRelay.Proofs.Web.Queries
import ScrobbleRelay.Proofs.Service.Audioscrobbler.Greetings
import ScrobbleRelay.Proofs.Service.Vouching
import ScrobbleRelay.Proofs.Service.Building
import ScrobbleRelay.Proofs.Files.Spared
import ScrobbleRelay.Proofs.Settings.Careful
import ScrobbleRelay.Proofs.Bus.Names
import ScrobbleRelay.Proofs.Bus.RuleTexts
import ScrobbleRelay.Proofs.Relay.Transparency
