import Narrative.Action
import Narrative.Action.Choice
import Narrative.Action.Dialog
import Narrative.Action.Jump
import Narrative.Action.Next
import Narrative.Action.Page
import Narrative.Action.Particles
import Narrative.Character
import Narrative.Condition
import Narrative.Cursor
import Narrative.Decimal.Double
import Narrative.Decimal.Layout
import Narrative.Decimal.Shortest
import Narrative.Effect
import Narrative.Engine
import Narrative.Fault
import Narrative.Fields
import Narrative.Game
import Narrative.Game.Menu
import Narrative.Game.Saves
import Narrative.Globals
import Narrative.History
import Narrative.Json.Basic
import Narrative.Json.Decode
import Narrative.Json.Reader
import Narrative.Json.Shape
import Narrative.Json.Skim
import Narrative.Json.Writer
import Narrative.Main
import Narrative.Playbook
import Narrative.Report
import Narrative.Rewind
import Narrative.Run
import Narrative.Script
import Narrative.Settings
import Narrative.Snapshot
import Narrative.State
import Narrative.Storage
import Narrative.Storage.Template
import Narrative.Store
import Narrative.Store.Directory
import Narrative.Story
import Narrative.Suggestion
import Narrative.Suggestion.Similarity
import Narrative.Table
import Narrative.Terminal.Arguments
import Narrative.Terminal.Check
import Narrative.Terminal.Disk
import Narrative.Terminal.Listing
import Narrative.Terminal.Outcome
import Narrative.Terminal.Render
import Narrative.Terminal.Session
import Narrative.Terminal.StoryFile
import Narrative.Terminal.Transcript
import Narrative.Text.Blank
import Narrative.Text.Cut
import Narrative.Text.LowerCase
import Narrative.Text.Numeral
import Narrative.Text.Ranges
import Narrative.Text.Width
import Narrative.Text.Width.Classes
import Narrative.Text.Width.Context
import Narrative.Timer
import Narrative.World
import Narrative.Proofs.Beginning
import Narrative.Proofs.Calls
import Narrative.Proofs.Checked
import Narrative.Proofs.Dispatch
import Narrative.Proofs.Documents
import Narrative.Proofs.Journey
import Narrative.Proofs.Keeping
import Narrative.Proofs.Lockstep
import Narrative.Proofs.Look
import Narrative.Proofs.LookAlike
import Narrative.Proofs.PageEdges
import Narrative.Proofs.Passage
import Narrative.Proofs.Path
import Narrative.Proofs.Picked
import Narrative.Proofs.Place
import Narrative.Proofs.Plain
import Narrative.Proofs.ReadBack
import Narrative.Proofs.Refusal
import Narrative.Proofs.Resolved
import Narrative.Proofs.Resumable
import Narrative.Proofs.Resumed
import Narrative.Proofs.Retrace
import Narrative.Proofs.RoundTrip
import Narrative.Proofs.Screen
import Narrative.Proofs.Screen.Actions
import Narrative.Proofs.Screen.Played
import Narrative.Proofs.Setup
import Narrative.Proofs.Skipped
import Narrative.Proofs.Slots
import Narrative.Proofs.StepBack
import Narrative.Proofs.Stops
import Narrative.Proofs.Turns
import Narrative.Proofs.Unseen
import Narrative.Proofs.Words
import Narrative.Proofs.Erased
import Narrative.Proofs.Loading
import Narrative.Proofs.Engine
import Narrative.Proofs.Within
import Narrative.Proofs.Mirror
import Narrative.Proofs.Defects
import Narrative.Proofs.Held
import Narrative.Proofs.LostMenu
import Narrative.Proofs.Limit
import Narrative.Proofs.Stretch
import Narrative.Proofs.Cuts
import Narrative.Proofs.Driven
import Narrative.Proofs.Bounds
import Narrative.Proofs.Running
import Narrative.Proofs.Foretold
import Narrative.Proofs.PrintedText
import Narrative.Proofs.Interchange
import Narrative.Proofs.Pace
import Narrative.Proofs.Shadowed
import Narrative.Proofs.FreshSlot
import Narrative.Proofs.Rotation
import Narrative.Proofs.OnePass
import Narrative.Proofs.Untouched
import Narrative.Proofs.Options
import Narrative.Proofs.Answers
import Narrative.Proofs.Policies
import Narrative.Proofs.Deadline
import Narrative.Proofs.Listed
import Narrative.Proofs.Merge
import Narrative.Proofs.Families
import Narrative.Proofs.Conditions
import Narrative.Proofs.Preferences
import Narrative.Proofs.Continued
import Narrative.Proofs.OwnData
import Narrative.Proofs.FloatOrder
import Narrative.Proofs.Ranking
import Narrative.Proofs.Tail
import Narrative.Proofs.Numeral
import Narrative.Proofs.Dotted
import Narrative.Engine
