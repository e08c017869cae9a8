import AntiForgery.Main
import AntiForgery.Redis.Server
import AntiForgery.Scenario
import AntiForgery.Proofs.Token.Contest
import AntiForgery.Proofs.Scenario.SingleUse
import AntiForgery.Proofs.Store.Sweeping
import AntiForgery.Proofs.Json.Number
import AntiForgery.Proofs.Json.Record
import AntiForgery.Proofs.Token.Payload
import AntiForgery.Proofs.Token.Minting
import AntiForgery.Proofs.Config
import AntiForgery.Proofs.Http.Handout
import AntiForgery.Proofs.Token.Footprint
import AntiForgery.Proofs.Session.Letters
import AntiForgery.Proofs.Http.Admittance
import AntiForgery.Proofs.Http.Tenure
import AntiForgery.Proofs.Http.Rejection
import AntiForgery.Proofs.Scenario.Runs
import AntiForgery.Proofs.Scenario.Tenure
import AntiForgery.Proofs.Scenario.Provenance
import AntiForgery.Proofs.Session.Spelling
import AntiForgery.Proofs.Http.Spelling
import AntiForgery.Proofs.Scenario.Spelling
import AntiForgery.Proofs.Text.Integer
import AntiForgery.Proofs.Redis.Backends
import AntiForgery.Proofs.Store.Likeness
import AntiForgery.Proofs.Likeness
import AntiForgery.Proofs.Http.Likeness
import AntiForgery.Proofs.Scenario.Noninterference
import AntiForgery.Proofs.Token.Faults
import AntiForgery.Proofs.Http.Breakdown
import AntiForgery.Proofs.Scenario.Breakdown
import AntiForgery.Proofs.Store.Growth
import AntiForgery.Proofs.Token.Timing
import AntiForgery.Proofs.Drawing
import AntiForgery.Proofs.Http.Answers
import AntiForgery.Proofs.Http.Drawing
import AntiForgery.Proofs.Scenario.Drawing
import AntiForgery.Proofs.Http.CrossOrigin
import AntiForgery.Proofs.Scenario.CrossOrigin
import AntiForgery.Proofs.Store.Ledger
import AntiForgery.Proofs.Store.Lock
import AntiForgery.Proofs.Cipher.Permutation
import AntiForgery.Proofs.Cipher.Field
import AntiForgery.Proofs.Cipher.Hash
import AntiForgery.Proofs.Cipher.Tampering
import AntiForgery.Proofs.Token.Tampering
import AntiForgery.Proofs.Token.Excerpt
import AntiForgery.Proofs.Text.Blank
import AntiForgery.Proofs.Text.Hex
import AntiForgery.Proofs.Text.Numeral
import AntiForgery.Proofs.Config.Acceptance
import AntiForgery.Proofs.Json.Value
import AntiForgery.Proofs.Session.Forms
import AntiForgery.Proofs.Http.Refusal
import AntiForgery.Proofs.Http.SessionCookie
import AntiForgery.Proofs.Config.Origins
import AntiForgery.Proofs.Http.Origins
import AntiForgery.Proofs.Server
