import JuliaLookup.Text.Basic
import JuliaLookup.Text.Search
import JuliaLookup.Text.Ranges
import JuliaLookup.Text.Letter
import JuliaLookup.Text.Numeral
import JuliaLookup.Text.Printable
import JuliaLookup.Text.Blank
import JuliaLookup.Text.Word
import JuliaLookup.Text.Quoted
import JuliaLookup.Text.Utf8
import JuliaLookup.Text.Shell
import JuliaLookup.Text.Lowercase
import JuliaLookup.Number.Reader
import JuliaLookup.Value.Quoted
import JuliaLookup.Value.Json
import JuliaLookup.Value.Merge
import JuliaLookup.Julia.SymbolPath
import JuliaLookup.Julia.StringLiteral
import JuliaLookup.Tool
import JuliaLookup.Script
import JuliaLookup.Cache
import JuliaLookup.Work
import JuliaLookup.Launcher
import JuliaLookup.Interpreter
import JuliaLookup.Log
import JuliaLookup.Logger
import JuliaLookup.Method
import JuliaLookup.Signature
import JuliaLookup.Server
import JuliaLookup.Proofs.Desk.Transparency
import JuliaLookup.Proofs.Script.Directory
import JuliaLookup.Proofs.Desk.Hits
import JuliaLookup.Proofs.Desk.Interleaving
import JuliaLookup.Proofs.Desk.SideBySide
import JuliaLookup.Proofs.Launcher.Reaping
import JuliaLookup.Proofs.Desk.Containment
import JuliaLookup.Proofs.Request.Grammar
import JuliaLookup.Proofs.Desk.Presentable
import JuliaLookup.Proofs.Toolbox.Agreement
import JuliaLookup.Proofs.Settings.Precedence
import JuliaLookup.Proofs.Server.Sessions
import JuliaLookup.Proofs.Julia.Segments
import JuliaLookup.Proofs.Complaint.InstallCommand
import JuliaLookup.Proofs.Launcher.Descriptions
import JuliaLookup.Proofs.Cache.Skipping
import JuliaLookup.Proofs.Desk.Frame
import JuliaLookup.Proofs.Script.Distinctness
import JuliaLookup.Proofs.Request.OptionOrder
import JuliaLookup.Proofs.Desk.Brevity
import JuliaLookup.Proofs.Launcher.Output
import JuliaLookup.Proofs.Interpreter.Resolution
import JuliaLookup.Proofs.Request.Refusals
import JuliaLookup.Proofs.Julia.Pattern
