import ApiTypes.Main
import ApiTypes.Proofs.Naming.References
import ApiTypes.Proofs.Schema.Reading
import ApiTypes.Proofs.TypeSyntax.Combination
import ApiTypes.Proofs.TypeSyntax.Unambiguous
import ApiTypes.Proofs.Generation.Partition
import ApiTypes.Proofs.Text.Template
import ApiTypes.Proofs.Generation.Qualifier
import ApiTypes.Proofs.Text.Closing
import ApiTypes.Proofs.Generation.Comments
import ApiTypes.Proofs.Schema.Canonical
import ApiTypes.Proofs.Schema.Enumeration
import ApiTypes.Proofs.Generation.Omission
import ApiTypes.Proofs.Document.Usage
import ApiTypes.Proofs.Naming.Sessions
import ApiTypes.Proofs.Naming.Pointers
import ApiTypes.Proofs.Run.Failures
import ApiTypes.Proofs.Generation.Extension
import ApiTypes.Proofs.Schema.Precedence
import ApiTypes.Proofs.Files.Loading
import ApiTypes.Proofs.Schema.Keywords
import ApiTypes.Proofs.Generation.Requiredness
import ApiTypes.Proofs.Schema.Members
import ApiTypes.Proofs.Naming.Paths
import ApiTypes.Proofs.Declaration.Interface
import ApiTypes.Proofs.Document.Parameters
import ApiTypes.Proofs.Generation.Identifiers
import ApiTypes.Proofs.Generation.Literals
import ApiTypes.Proofs.Naming.Search
import ApiTypes.Proofs.Naming.Normalization
