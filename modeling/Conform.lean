import Conform.Coercion
import Conform.Config
import Conform.Json
import Conform.Kind.Basic
import Conform.Kind.Term
import Conform.Number.Decimal
import Conform.Number.Double
import Conform.Number.Integer
import Conform.Number.Notation
import Conform.Number.Shortest
import Conform.Path
import Conform.Pattern.Automaton
import Conform.Pattern.Basic
import Conform.Pattern.ByteRange
import Conform.Pattern.CaseVariants
import Conform.Pattern.CharClass
import Conform.Pattern.Look
import Conform.Pattern.Occurrence
import Conform.Pattern.Property
import Conform.Pattern.Property.Age
import Conform.Pattern.Property.Binary
import Conform.Pattern.Property.Break
import Conform.Pattern.Property.Category
import Conform.Pattern.Property.Script
import Conform.Pattern.Reader
import Conform.Pattern.Written
import Conform.Problem
import Conform.Proofs.Check.Address
import Conform.Proofs.Check.Agreement
import Conform.Proofs.Check.Consistency
import Conform.Proofs.Check.Describe
import Conform.Proofs.Check.Ensures
import Conform.Proofs.Check.Example
import Conform.Proofs.Check.Insist
import Conform.Proofs.Check.Integral
import Conform.Proofs.Check.Membership
import Conform.Proofs.Check.Nesting
import Conform.Proofs.Check.Path
import Conform.Proofs.Check.Projection
import Conform.Proofs.Check.Refuse
import Conform.Proofs.Check.Rejected
import Conform.Proofs.Check.Repeat
import Conform.Proofs.Check.Toward
import Conform.Proofs.Check.Unambiguous
import Conform.Proofs.Check.Verdict
import Conform.Proofs.Check.Walk
import Conform.Proofs.Json.Members
import Conform.Proofs.Json.NormalForm
import Conform.Proofs.Json.RoundTrip
import Conform.Proofs.Kind.Composes
import Conform.Proofs.Kind.Groups
import Conform.Proofs.Kind.Loosening
import Conform.Proofs.Kind.Matches
import Conform.Proofs.Kind.Meaning
import Conform.Proofs.Kind.Reorders
import Conform.Proofs.Kind.Resolves
import Conform.Proofs.Kind.Simultaneous
import Conform.Proofs.Kind.Substitution
import Conform.Proofs.Kind.Targets
import Conform.Proofs.Number.Rounding
import Conform.Proofs.Registry.Ancestry
import Conform.Proofs.Registry.Attempt
import Conform.Proofs.Registry.Chain
import Conform.Proofs.Registry.Direct
import Conform.Proofs.Registry.Distinct
import Conform.Proofs.Registry.Extends
import Conform.Proofs.Registry.Known
import Conform.Proofs.Registry.Left
import Conform.Proofs.Registry.Memo
import Conform.Proofs.Registry.Names
import Conform.Proofs.Registry.Overriding
import Conform.Proofs.Registry.Reordered
import Conform.Proofs.Registry.WellFormed
import Conform.Proofs.Session.Address
import Conform.Proofs.Session.Builds
import Conform.Proofs.Session.Calls
import Conform.Proofs.Session.Chain
import Conform.Proofs.Session.Construct
import Conform.Proofs.Session.Descent
import Conform.Proofs.Session.Direct
import Conform.Proofs.Session.Ends
import Conform.Proofs.Session.EntryPoints
import Conform.Proofs.Session.Equal
import Conform.Proofs.Session.Events
import Conform.Proofs.Session.Follows
import Conform.Proofs.Session.Formed
import Conform.Proofs.Session.Idempotent
import Conform.Proofs.Session.Insist
import Conform.Proofs.Session.Kept
import Conform.Proofs.Session.Keyed
import Conform.Proofs.Session.Known
import Conform.Proofs.Session.Lasting
import Conform.Proofs.Session.Lookup
import Conform.Proofs.Session.Loosening
import Conform.Proofs.Session.Matching
import Conform.Proofs.Session.Memoize
import Conform.Proofs.Session.Normal
import Conform.Proofs.Session.Owned
import Conform.Proofs.Session.Projection
import Conform.Proofs.Session.Rearrangement
import Conform.Proofs.Session.Renaming
import Conform.Proofs.Session.Reordered
import Conform.Proofs.Session.Repeat
import Conform.Proofs.Session.Retains
import Conform.Proofs.Session.Settling
import Conform.Proofs.Session.Since
import Conform.Proofs.Session.Stands
import Conform.Proofs.Session.Sure
import Conform.Proofs.Session.Trials
import Conform.Proofs.Shape.Declaring
import Conform.Proofs.Spec.Normal
import Conform.Proofs.Spec.References
import Conform.Proofs.Term.Grammar
import Conform.Proofs.Term.Reserved
import Conform.Proofs.Term.Shown
import Conform.Proofs.Term.Token
import Conform.Proofs.Text.ByteOrder
import Conform.Proofs.Text.CharClass
import Conform.Proofs.Value.Equality
import Conform.Proofs.Value.Extension
import Conform.Proofs.Value.Order
import Conform.Proofs.Value.Parts
import Conform.Proofs.Value.Permutation
import Conform.Proofs.Value.Projection
import Conform.Proofs.Value.Scalars
import Conform.Proofs.Value.Sort
import Conform.Registry.Basic
import Conform.Session.Basic
import Conform.Session.Check
import Conform.Session.Derive
import Conform.Shape
import Conform.Spec.Basic
import Conform.Spec.Build
import Conform.Spec.Callback
import Conform.Spec.Leaf
import Conform.Spec.Named
import Conform.SpecError
import Conform.Speccable
import Conform.Text.CharClass
import Conform.Text.CharClass.Table
import Conform.Text.CharMap
import Conform.Text.CharSet
import Conform.Text.Normalization
import Conform.Text.Normalization.Table
import Conform.Text.Noun
import Conform.Text.Quoted
import Conform.Text.Utf8
import Conform.Uuid
import Conform.Value.Basic
import Conform.Value.Equality
import Conform.Value.Kind
import Conform.Value.Order
import Conform.Value.Text
import Conform.WebAddress.DomainName
import Conform.WebAddress.DomainName.Table
import Conform.WebAddress.Host
import Conform.WebAddress.Ipv4
import Conform.WebAddress.Ipv6
import Conform.WebAddress.Path
import Conform.WebAddress.Percent
import Conform.WebAddress.Punycode
import Conform.WebAddress.Reader
