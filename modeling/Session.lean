import Session.Main
import Session.Server.Serving
import Session.Command.Startup
import Session.Proofs.Body.Chunking
import Session.Proofs.Body.DeclaredLength
import Session.Proofs.Body.Declaring
import Session.Proofs.Body.Faults
import Session.Proofs.Body.Holding
import Session.Proofs.Body.Limited
import Session.Proofs.Body.Reading
import Session.Proofs.Body.TwoLimits
import Session.Proofs.Body.Waiting
import Session.Proofs.Command.Launch
import Session.Proofs.Command.Startup
import Session.Proofs.Config.CookieSettings
import Session.Proofs.Config.LeadingDots
import Session.Proofs.Config.Loading
import Session.Proofs.Config.Overlay
import Session.Proofs.Config.Reporting
import Session.Proofs.Cookie.Clearing
import Session.Proofs.Cookie.Counting
import Session.Proofs.Cookie.Directive
import Session.Proofs.Cookie.Expiry
import Session.Proofs.Cookie.Jar
import Session.Proofs.Cookie.LastWord
import Session.Proofs.Cookie.Recording
import Session.Proofs.Journal
import Session.Proofs.Repeats
import Session.Proofs.Server.Accounting
import Session.Proofs.Server.Answering
import Session.Proofs.Server.Echo
import Session.Proofs.Server.Growth
import Session.Proofs.Server.Logout
import Session.Proofs.Server.Routes
import Session.Proofs.Shutdown.Waiting
import Session.Proofs.Text.Cutting
import Session.Proofs.Text.Lossy
import Session.Proofs.Text.Numeral
import Session.Proofs.Text.Scanning
import Session.Proofs.Text.Utf8
import Session.Proofs.Toml.Proper
