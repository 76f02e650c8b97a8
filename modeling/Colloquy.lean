import Colloquy.Budget
import Colloquy.Catalog.Basic
import Colloquy.Catalog.Prompts
import Colloquy.Command.Basic
import Colloquy.Command.Run
import Colloquy.CommandLine
import Colloquy.Config.Basic
import Colloquy.Config.Data
import Colloquy.Config.Load
import Colloquy.Decimal.Shortest
import Colloquy.Dialogue
import Colloquy.Error
import Colloquy.Files
import Colloquy.Formatter
import Colloquy.Jinja.Basic
import Colloquy.Json.Basic
import Colloquy.Json.Document
import Colloquy.Json.Printer
import Colloquy.Json.Reader
import Colloquy.Json.Record
import Colloquy.Main
import Colloquy.Placeholder
import Colloquy.Slot
import Colloquy.Template.Basic
import Colloquy.Template.Compile
import Colloquy.Template.Encoding
import Colloquy.Template.Registry
import Colloquy.Template.Resolve
import Colloquy.Text.Blank
import Colloquy.Text.Quoted
import Colloquy.Text.Search
import Colloquy.Text.Word
import Colloquy.Tokenizer.Basic
import Colloquy.Tokenizer.CharLevel
import Colloquy.Tokenizer.Configured
import Colloquy.Tokenizer.Cutting
import Colloquy.Tokenizer.Load
import Colloquy.Tokenizer.WordLevel
import Colloquy.Toml.Basic
import Colloquy.Toml.Number
import Colloquy.Toml.Printer
import Colloquy.Toml.Reader
import Colloquy.Toml.Text
import Colloquy.Toml.Tree
import Colloquy.Tool.ActionBlock
import Colloquy.Tool.Definition
import Colloquy.Tool.Format
import Colloquy.Proofs.Budget
import Colloquy.Proofs.Bytes
import Colloquy.Proofs.Config.Acceptance
import Colloquy.Proofs.Config.RoundTrip
import Colloquy.Proofs.Config.Validity
import Colloquy.Proofs.Encoding
import Colloquy.Proofs.Formatters
import Colloquy.Proofs.InPlace
import Colloquy.Proofs.Jinja.Evaluation
import Colloquy.Proofs.Jinja.Outline
import Colloquy.Proofs.JoinedRounds
import Colloquy.Proofs.Json.Lines
import Colloquy.Proofs.Json.Lossless
import Colloquy.Proofs.Json.Messages
import Colloquy.Proofs.Json.Numbers
import Colloquy.Proofs.Json.Parsed
import Colloquy.Proofs.Json.Places
import Colloquy.Proofs.Json.Records
import Colloquy.Proofs.Json.RoundTrip
import Colloquy.Proofs.LargerBudgets
import Colloquy.Proofs.MachineBudget
import Colloquy.Proofs.Placeholders
import Colloquy.Proofs.Refusals
import Colloquy.Proofs.Replies
import Colloquy.Proofs.Substitution
import Colloquy.Proofs.Template.Agreement
import Colloquy.Proofs.Template.ClosedReplies
import Colloquy.Proofs.Template.Compilability
import Colloquy.Proofs.Template.Failures
import Colloquy.Proofs.Template.FirstUser
import Colloquy.Proofs.Template.Idempotence
import Colloquy.Proofs.Template.Occurrences
import Colloquy.Proofs.Template.OwnCalls
import Colloquy.Proofs.Template.Quotation
import Colloquy.Proofs.Template.Resolution
import Colloquy.Proofs.Template.SystemPrompt
import Colloquy.Proofs.Text
import Colloquy.Proofs.Tokenizer.Changes
import Colloquy.Proofs.Tokenizer.Cutting
import Colloquy.Proofs.Tokenizer.Decoding
import Colloquy.Proofs.Tokenizer.Growth
import Colloquy.Proofs.Tokenizer.Joining
import Colloquy.Proofs.Tokenizer.Numbering
import Colloquy.Proofs.Tool.Blocks
import Colloquy.Proofs.Tool.Calls
import Colloquy.Proofs.Tool.Fields
import Colloquy.Proofs.Tool.FirstBlock
import Colloquy.Proofs.Tool.FirstMatch
import Colloquy.Proofs.Tool.Manifest
import Colloquy.Proofs.Tool.Misheard
import Colloquy.Proofs.Tool.TwoLines
import Colloquy.Proofs.WholeDialogues
