import PageCompanion.Main
import PageCompanion.Copying.Bench
import PageCompanion.Live.Session
import PageCompanion.Preview.Report
import PageCompanion.Preview.Tree
import PageCompanion.Token.Run
import PageCompanion.Proofs.Text.Encoding
import PageCompanion.Proofs.Text.Trimming
import PageCompanion.Proofs.Text.Spelling
import PageCompanion.Proofs.Text.Decoding
import PageCompanion.Proofs.Text.Lengths
import PageCompanion.Proofs.Text.Cutting
import PageCompanion.Proofs.Text.Variants
import PageCompanion.Proofs.Cookie.Entries
import PageCompanion.Proofs.Cookie.Written
import PageCompanion.Proofs.Cookie.Meaning
import PageCompanion.Proofs.Live.Matching
import PageCompanion.Proofs.Live.Soundness
import PageCompanion.Proofs.Live.Lasting
import PageCompanion.Proofs.Live.Runs
import PageCompanion.Proofs.Live.Starting
import PageCompanion.Proofs.Live.Attachment
import PageCompanion.Proofs.Live.Clicking
import PageCompanion.Proofs.Live.Onward
import PageCompanion.Proofs.Live.Outcomes
import PageCompanion.Proofs.Live.Alone
import PageCompanion.Proofs.Live.Gentle
import PageCompanion.Proofs.Live.Clicks
import PageCompanion.Proofs.Cookie.Padding
import PageCompanion.Proofs.Settings.Assignments
import PageCompanion.Proofs.Settings.WellFormed
import PageCompanion.Proofs.Settings.Recovery
import PageCompanion.Proofs.Token.Writes
import PageCompanion.Proofs.Token.Tables
import PageCompanion.Proofs.Token.Runs
import PageCompanion.Proofs.Preview.Reading
import PageCompanion.Proofs.Preview.Options
import PageCompanion.Proofs.Preview.Sources
import PageCompanion.Proofs.Live.Requests
import PageCompanion.Proofs.Preview.Agreement
import PageCompanion.Proofs.Copying.Attempts
import PageCompanion.Proofs.Copying.Lifecycle
import PageCompanion.Proofs.Copying.History
import PageCompanion.Proofs.Live.Stampers
import PageCompanion.Proofs.Live.Snapshot
import PageCompanion.Proofs.Live.Restarts
import PageCompanion.Proofs.Settings.Readings
import PageCompanion.Proofs.Cookie.Rearranging
import PageCompanion.Proofs.Live.Scanning
import PageCompanion.Proofs.Preview.Spellings
import PageCompanion.Proofs.Settings.Fields
import PageCompanion.Proofs.Text.Quoting
import PageCompanion.Proofs.Preview.Listing
import PageCompanion.Proofs.Text.ControlStrings
import PageCompanion.Proofs.Preview.Failures
import PageCompanion.Proofs.Live.Handling
import PageCompanion.Proofs.Token.Warnings
import PageCompanion.Proofs.Live.Clipboards
import PageCompanion.Proofs.Live.Diagnostics
import PageCompanion.Proofs.Preview.Leading
import PageCompanion.Proofs.Preview.Flags
import PageCompanion.Proofs.Settings.Padding
import PageCompanion.Proofs.Cookie.Observation
import PageCompanion.Proofs.Token.Interchange
import PageCompanion.Proofs.Preview.Lines
