/-
The byte trie of routes by path prefix (`crates/edge/src/routing/trie.rs`).

A node holds the routes whose prefix ends there, at most one per upstream, and its children by next byte. The code
keeps the children in a vector sorted by byte and finds one with `binary_search_by_key`; as a map from byte to child
that is an association list with one entry per byte (`KeyedList`), and the order of the entries is never observed.
`insert` walks the prefix creating missing nodes; `longest_prefix_with_reason` walks the path as far as the trie
goes, offering the routes of every node it passes to `best_matching_route_with_reason`.
-/
import Spooky.Lib.KeyedList
import Spooky.Edge.Routing.Matcher

namespace Spooky.Edge.Routing

open KeyedList

inductive TrieNode where
  | mk (routes : List IndexedRoute) (children : List (UInt8 × TrieNode))

namespace TrieNode

def routes : TrieNode → List IndexedRoute
  | mk rs _ => rs

def children : TrieNode → List (UInt8 × TrieNode)
  | mk _ cs => cs

/-- `TrieNode::default()` -/
def empty : TrieNode := mk [] []

/-- `update_route`: the route replaces the first one of the same upstream, or is pushed -/
def updateRoute (candidate : IndexedRoute) (routes : List IndexedRoute) : List IndexedRoute :=
  match routes.findIdx? fun route => route.upstreamIdx == candidate.upstreamIdx with
  | some i => routes.set i candidate
  | none => routes ++ [candidate]

def child (byte : UInt8) (node : TrieNode) : Option TrieNode := get byte node.children

/-- the walk of `insert` (`child_or_insert` at each byte), storing the route where the prefix ends -/
def insertAt (route : IndexedRoute) : List UInt8 → TrieNode → TrieNode
  | [], mk rs cs => mk (updateRoute route rs) cs
  | b :: rest, mk rs cs => mk rs (upsert b (insertAt route rest ((get b cs).getD empty)) cs)

/-- the loop of `longest_prefix_with_reason` from a node, over the bytes of the path left to walk -/
def walk (path : List UInt8) (method : Option (List UInt8)) (upstreamMethods : List (Option (List UInt8))) :
    TrieNode → List UInt8 → Option (IndexedRoute × Option RouteDecisionReason) →
      Option (IndexedRoute × Option RouteDecisionReason)
  | _, [], best => best
  | node, b :: rest, best =>
    match node.child b with
    | none => best
    | some next => walk path method upstreamMethods next rest
      (bestMatchingRouteWithReason next.routes path method upstreamMethods best)

end TrieNode

structure RouteTrie where
  root : TrieNode

namespace RouteTrie

def default : RouteTrie := ⟨TrieNode.empty⟩

/-- `insert`: an absent prefix is the empty one, whose routes sit at the root -/
def insert (pathPrefix : Option (List UInt8)) (route : IndexedRoute) (trie : RouteTrie) : RouteTrie :=
  ⟨trie.root.insertAt route (pathPrefix.getD [])⟩

def longestPrefixWithReason (trie : RouteTrie) (path : List UInt8) (method : Option (List UInt8))
    (upstreamMethods : List (Option (List UInt8))) : Option (IndexedRoute × Option RouteDecisionReason) :=
  trie.root.walk path method upstreamMethods path
    (bestMatchingRouteWithReason trie.root.routes path method upstreamMethods none)

def longestPrefix (trie : RouteTrie) (path : List UInt8) (method : Option (List UInt8))
    (upstreamMethods : List (Option (List UInt8))) : Option IndexedRoute :=
  (trie.longestPrefixWithReason path method upstreamMethods).map Prod.fst

end RouteTrie

end Spooky.Edge.Routing
