import SpriteGame.Action
import SpriteGame.Analysis
import SpriteGame.Demo.Dungeon
import SpriteGame.Demo.Rollout
import SpriteGame.Demo.Run
import SpriteGame.Game.Description
import SpriteGame.Game.Outline
import SpriteGame.Game.Parameter
import SpriteGame.Game.Reader
import SpriteGame.Game.Writer
import SpriteGame.Geometry
import SpriteGame.Main
import SpriteGame.Number.Numeral
import SpriteGame.Number.Single
import SpriteGame.Play
import SpriteGame.Problem
import SpriteGame.Proofs.Assembly
import SpriteGame.Proofs.Barrier
import SpriteGame.Proofs.Births
import SpriteGame.Proofs.Candidates
import SpriteGame.Proofs.CarryOut
import SpriteGame.Proofs.Clamping
import SpriteGame.Proofs.Commit
import SpriteGame.Proofs.Comparison
import SpriteGame.Proofs.Compilation
import SpriteGame.Proofs.Complete
import SpriteGame.Proofs.Composition
import SpriteGame.Proofs.Cooldown
import SpriteGame.Proofs.Declaration
import SpriteGame.Proofs.Detection
import SpriteGame.Proofs.Dispatch
import SpriteGame.Proofs.Effects
import SpriteGame.Proofs.Encounter
import SpriteGame.Proofs.Entries
import SpriteGame.Proofs.Episode
import SpriteGame.Proofs.Faultless
import SpriteGame.Proofs.Faults
import SpriteGame.Proofs.Frame
import SpriteGame.Proofs.Genealogy
import SpriteGame.Proofs.Grammar
import SpriteGame.Proofs.Health
import SpriteGame.Proofs.Hunt
import SpriteGame.Proofs.Identity
import SpriteGame.Proofs.Indentation
import SpriteGame.Proofs.Inheritance
import SpriteGame.Proofs.Layout
import SpriteGame.Proofs.Lexing
import SpriteGame.Proofs.Limits
import SpriteGame.Proofs.Lineage
import SpriteGame.Proofs.Mapping
import SpriteGame.Proofs.Moments
import SpriteGame.Proofs.Motion
import SpriteGame.Proofs.Numbering
import SpriteGame.Proofs.Orders
import SpriteGame.Proofs.Origin
import SpriteGame.Proofs.Outcome
import SpriteGame.Proofs.Payment
import SpriteGame.Proofs.Permutation
import SpriteGame.Proofs.Placeholder
import SpriteGame.Proofs.Playthrough
import SpriteGame.Proofs.Reading
import SpriteGame.Proofs.Registered
import SpriteGame.Proofs.Renumbering
import SpriteGame.Proofs.Report
import SpriteGame.Proofs.Resource
import SpriteGame.Proofs.RoundTrip
import SpriteGame.Proofs.Routine
import SpriteGame.Proofs.Saving
import SpriteGame.Proofs.Seed
import SpriteGame.Proofs.ShortestPath
import SpriteGame.Proofs.Sightings
import SpriteGame.Proofs.Singleton
import SpriteGame.Proofs.Spelling
import SpriteGame.Proofs.Stream
import SpriteGame.Proofs.Strict
import SpriteGame.Proofs.Subtree
import SpriteGame.Proofs.TotalOrder
import SpriteGame.Proofs.Turns
import SpriteGame.Proofs.Unheeded
import SpriteGame.Proofs.Wander
import SpriteGame.Proofs.Words
import SpriteGame.Pursuit.Path
import SpriteGame.Pursuit.Target
import SpriteGame.Random
import SpriteGame.Registry
import SpriteGame.Rule.Effect
import SpriteGame.Rule.Interaction
import SpriteGame.Rule.Termination
import SpriteGame.Ruleset
import SpriteGame.Settings.Basic
import SpriteGame.Settings.Json
import SpriteGame.SortedMap
import SpriteGame.Sprite.Class
import SpriteGame.Sprite.Instance
import SpriteGame.Sprite.Physics
import SpriteGame.Sprite.Template
import SpriteGame.Text.Blank
import SpriteGame.Text.Case
import SpriteGame.Text.CaseTable
import SpriteGame.Tick.Advance
import SpriteGame.Tick.Collision
import SpriteGame.Tick.Command
import SpriteGame.Tick.Effect
import SpriteGame.Validation
import SpriteGame.World.Basic
import SpriteGame.World.Commit
import SpriteGame.World.Level
import SpriteGame.World.Observation
