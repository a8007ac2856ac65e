import Witnessed.Policy.Catalog

/-!
The policies that are available everywhere. Their keys come from publicly known seeds; they are
for trying things out, never for accepting tree heads in earnest.
-/

namespace Witnessed

private def textOfLines (lines : List String) : String :=
  String.join (lines.map (· ++ "\n"))

def twoOfThree : Builtin where
  name := "vouch-test-1"
  text := textOfLines
    [ "# Test policy for the vouch development log.",
      "#",
      "# The keys below are derived from fixed, publicly known seeds. Never use this",
      "# policy to accept tree heads from a production log.",
      "",
      "log d04ab232742bb4ab3a1368bd4615e4e6d0224ab71a016baf8520a332c9778737 https://log.vouch.example/",
      "",
      "witness w0 4ed32f63bf35f0eeefcb25f28a2e1fbdc873ae2835671b0c9460f5f12e4556a8 https://w0.vouch.example/",
      "witness w1 884b8857f4eaa1613c61504db34d4beaf346517a0e31de3cddd4d9b4201d9d0b https://w1.vouch.example/",
      "witness w2 a09aa5f47a6759802ff955f8dc2d2a14a5c99d23be97f864127ff9383455a4f0",
      "",
      "group test-witnesses 2 w0 w1 w2",
      "quorum test-witnesses" ]

def nestedGroups : Builtin where
  name := "vouch-test-nested"
  text := textOfLines
    [ "# Nested any/all policy over the development witnesses.",
      "#",
      "# Needs one of w0 and w1, and one of (one of w2 and w3), w4 and w5.",
      "",
      "log d04ab232742bb4ab3a1368bd4615e4e6d0224ab71a016baf8520a332c9778737",
      "",
      "witness w0 4ed32f63bf35f0eeefcb25f28a2e1fbdc873ae2835671b0c9460f5f12e4556a8",
      "witness w1 884b8857f4eaa1613c61504db34d4beaf346517a0e31de3cddd4d9b4201d9d0b",
      "witness w2 a09aa5f47a6759802ff955f8dc2d2a14a5c99d23be97f864127ff9383455a4f0",
      "witness w3 74f85cda34d1c27c4621484731e91579c3d9c6cfc0d94b281aa11e9162058aa9",
      "witness w4 58936604abda112bc94933569c82f8d0cc0ddf92a3f8329f2f448f7f484a594c",
      "witness w5 bed7d2ab668da3efad613998f06f7abf7875f3a6b7677a9f3ce947d77d7760a6",
      "",
      "group g0 any w0 w1",
      "group g1 any w2 w3",
      "group g2 any g1 w4 w5",
      "group root all g0 g2",
      "quorum root" ]

/-- All of them, in the order of their names. -/
def builtins : List Builtin :=
  [twoOfThree, nestedGroups]

end Witnessed
