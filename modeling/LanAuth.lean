import LanAuth.Response
import LanAuth.SelfTest
import LanAuth.Proofs.Chaining
import LanAuth.Proofs.Des.Inverse
import LanAuth.Proofs.Response
import LanAuth.Proofs.ChallengeBinding
import LanAuth.Proofs.Digest.Authentication
import LanAuth.Proofs.NameBinding
import LanAuth.Proofs.Text.Latin1
import LanAuth.Proofs.KeyMaterial
import LanAuth.Proofs.Outcome
import LanAuth.Proofs.LogSecrecy
import LanAuth.Proofs.Des.KeyBits
import LanAuth.Proofs.Des.Complement
import LanAuth.Proofs.Complementation
import LanAuth.Proofs.Text.Idempotence
import LanAuth.Proofs.Text.CaseChange
import LanAuth.Proofs.CaseInsensitivity
import LanAuth.Proofs.StoredHash
import LanAuth.Proofs.NameBoundary
import LanAuth.Proofs.Truncation
import LanAuth.Proofs.ChunkLocality
import LanAuth.Proofs.Des.ConstantKey
import LanAuth.Proofs.Halves
import LanAuth.Proofs.Des.Repacking
import LanAuth.Proofs.KeyExpansion
import LanAuth.Proofs.CipherKeys
import LanAuth.Proofs.Des.WeakKey
import LanAuth.Proofs.WeakPadding
import LanAuth.Proofs.Digest.WholeMessage
import LanAuth.Proofs.Text.Replacement
import LanAuth.Proofs.LatinPassword
import LanAuth.Proofs.Text.Surrogates
import LanAuth.Proofs.PasswordEncoding
import LanAuth.Proofs.Digest.Md4Block
import LanAuth.Proofs.Digest.Md4Message
import LanAuth.Proofs.KeyRange
import LanAuth.Proofs.Order
import LanAuth.Proofs.ErrorOrder
import LanAuth.Proofs.Text.PrefixFree
import LanAuth.Proofs.ErrorText
import LanAuth.Proofs.SchemeCodes
import LanAuth.Proofs.Text.CodePoint
import LanAuth.Proofs.SelfTest
import LanAuth.Proofs.SelfTest
